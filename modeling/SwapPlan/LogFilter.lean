import SwapPlan.Text.Blank

/-!
Directives for a log filter. A bare level applies to this library and keeps the transport below
it quiet; a text that spells directives out is left as it is.
-/

namespace SwapPlan.LogFilter

/-- Keeps the modules of the transport at the level `info`. -/
def quietTransport : String :=
  "h2=info,hyper=info,hyper_util=info,alloy_transport_http=info,alloy_rpc_client=info"

/-- The directives of a level, without the blanks around it. No level at all is `info`. -/
def directives (level : String) : String :=
  let cs := Text.trimChars level.toList
  if cs = [] then "info," ++ quietTransport
  else if ',' ∈ cs ∨ '=' ∈ cs then String.ofList cs
  else String.ofList cs ++ "," ++ quietTransport

end SwapPlan.LogFilter
