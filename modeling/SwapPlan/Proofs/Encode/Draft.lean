import SwapPlan.Proofs.Encode.Plannable

/-!
Routes written to a plan that is changed in place. An encoder writes one command after the other,
and where it fails at one, those before it stand already. So a route is written on a draft, which is
appended once it is complete: after any calls a plan holds what it held before and then the routes
that could be written, each as it is written alone.
-/

namespace SwapPlan

namespace Plan

lemma ofCommands_nil : ofCommands [] = empty := rfl

lemma empty_append (p : Plan) : empty ++ p = p := rfl

lemma append_empty (p : Plan) : p ++ empty = p := congrArg mk (List.append_nil p.entries)

lemma append_assoc (p q r : Plan) : p ++ q ++ r = p ++ (q ++ r) :=
  congrArg mk (List.append_assoc p.entries q.entries r.entries)

/-! ### Writing in place -/

/-- Writing to a plan. What was written stays where a later command fails. -/
abbrev Writing (α : Type) := ExceptT Error (StateM Plan) α

namespace Writing

variable {α β : Type}

/-- What writing on a plan comes to, and the plan as it is left. -/
def on (w : Writing α) (p : Plan) : Except Error α × Plan := w.run.run p

def write (c : Command) : Writing Unit := modify fun p => p.push c

/-- Writes on an empty plan, which is appended once all is written. -/
def drafted (w : Writing α) : Writing α := do
  let (result, draft) := w.on .empty
  let a ← result
  modify (· ++ draft)
  return a

lemma on_bind (w : Writing α) (f : α → Writing β) (p : Plan) : (w >>= f).on p =
    match w.on p with
    | (.ok a, q) => (f a).on q
    | (.error e, q) => (.error e, q) := by
  simp only [on, ExceptT.run_bind, StateT.run_bind]
  rcases w.run.run p with ⟨_ | a, q⟩ <;> rfl

lemma on_drafted (w : Writing α) (p : Plan) : w.drafted.on p =
    match w.on .empty with
    | (.ok a, draft) => (.ok a, p ++ draft)
    | (.error e, _) => (.error e, p) := by
  unfold drafted
  rcases w.on .empty with ⟨_ | a, draft⟩ <;> rfl

/-- Writing appends these commands to any plan, and comes to this result. -/
def Writes (w : Writing α) (cs : List Command) (result : Except Error α) : Prop :=
  ∀ p, w.on p = (result, p ++ ofCommands cs)

variable {w : Writing α} {f : α → Writing β} {cs ds : List Command} {a : α} {e : Error}
  {result : Except Error β}

lemma Writes.on_eq_self {result : Except Error α} (h : Writes w [] result) (p : Plan) :
    w.on p = (result, p) := by
  rw [h p, ofCommands_nil, append_empty]

lemma writes_lift (x : Except Error α) : Writes (liftM x) [] x := fun p => by
  rw [ofCommands_nil, append_empty]
  rfl

lemma writes_write (c : Command) : Writes (write c) [c] (.ok ()) := fun _ => rfl

lemma Writes.bind (h : Writes w cs (.ok a)) (hf : Writes (f a) ds result) :
    Writes (w >>= f) (cs ++ ds) result := by
  intro p
  rw [on_bind, h p, ofCommands_append, ← append_assoc]
  exact hf _

lemma Writes.seq {k : Writing β} (h : Writes w cs (.ok a)) (hk : Writes k ds result) :
    Writes (w >>= fun _ => k) (cs ++ ds) result :=
  h.bind hk

lemma Writes.bind_error (h : Writes w cs (.error e)) : Writes (w >>= f) cs (.error e) := by
  intro p
  rw [on_bind, h p]

/-- A sequence of writing from a result that is at hand. -/
lemma writes_lift_bind {x : Except Error α} (hx : x = .ok a) (hf : Writes (f a) ds result) :
    Writes (liftM x >>= f) ds result := by
  subst hx
  exact (writes_lift (.ok a)).bind hf

lemma writes_lift_error {x : Except Error α} (hx : x = .error e) :
    Writes (liftM x >>= f) [] (.error e) := by
  subst hx
  exact (writes_lift (.error e)).bind_error

lemma writes_forM (cs : List Command) : Writes (cs.forM write) cs (.ok ()) := by
  induction cs with
  | nil => exact writes_lift (.ok ())
  | cons c cs ih => exact (writes_write c).seq ih

lemma Writes.drafted (h : Writes w cs (.ok a)) : Writes w.drafted cs (.ok a) := by
  intro p
  rw [on_drafted, h .empty, empty_append]

/-- **What fails on a draft leaves nothing behind.** -/
lemma Writes.drafted_error (h : Writes w cs (.error e)) : Writes w.drafted [] (.error e) := by
  intro p
  rw [on_drafted, h .empty, ofCommands_nil, append_empty]

/-- Writing that comes to what is at hand with its commands: all of them are written where it
succeeds, and where it fails some may be. -/
def Follows (w : Writing α) : Except Error (List Command × α) → Prop
  | .ok (cs, a) => w.Writes cs (.ok a)
  | .error e => ∃ cs, w.Writes cs (.error e)

lemma follows_lift_bind {x : Except Error α} {g : α → Except Error (List Command × β)}
    (h : ∀ a, x = .ok a → (f a).Follows (g a)) : (liftM x >>= f).Follows (x >>= g) := by
  rcases x with e | a
  · exact ⟨[], writes_lift_error rfl⟩
  · exact h a rfl

lemma Follows.on_drafted {x : Except Error (List Command × α)} (p : Plan) :
    w.Follows x → w.drafted.on p = match x with
      | .ok (cs, a) => (.ok a, p ++ ofCommands cs)
      | .error e => (.error e, p) := by
  rcases x with e | ⟨cs, a⟩
  · rintro ⟨cs, h⟩
    exact h.drafted_error.on_eq_self p
  · exact fun h => h.drafted p

/-! ### A chain of steps -/

section Chain

variable {σ : Type} {command : Address → (amount least : Amount) → σ → Except Error Command}
  {payee : Address} {least amount : Amount} {steps : List σ}

/-- Writes the commands of steps one by one. The first spends `amount`, and every later one the
whole balance; the last pays out, for `least` at least. -/
def writeSteps (command : Address → (amount least : Amount) → σ → Except Error Command)
    (payee : Address) (least : Amount) : (amount : Amount) → List σ → Writing Unit
  | _, [] => pure ()
  | amount, [s] => do write (← command payee amount least s)
  | amount, s :: steps => do
    write (← command Sentinel.router amount 0 s)
    writeSteps command payee least Sentinel.wholeBalance steps

/-- The commands of the same steps, or the first failure. -/
def stepCommands (command : Address → (amount least : Amount) → σ → Except Error Command)
    (payee : Address) (least : Amount) : (amount : Amount) → List σ → Except Error (List Command)
  | _, [] => .ok []
  | amount, [s] => do return [← command payee amount least s]
  | amount, s :: steps => do
    let c ← command Sentinel.router amount 0 s
    let cs ← stepCommands command payee least Sentinel.wholeBalance steps
    return c :: cs

lemma writes_steps (h : stepCommands command payee least amount steps = .ok cs) :
    Writes (writeSteps command payee least amount steps) cs (.ok ()) := by
  induction steps generalizing amount cs with
  | nil =>
      obtain rfl := Except.ok.inj h
      exact writes_lift (.ok ())
  | cons s steps ih =>
      rcases steps with _ | ⟨s', steps⟩
      · obtain ⟨c, hc, h⟩ := bind_eq_ok.mp h
        obtain rfl := pure_eq_ok.mp h
        exact writes_lift_bind hc (writes_write c)
      · obtain ⟨c, hc, h⟩ := bind_eq_ok.mp h
        obtain ⟨cs, hcs, h⟩ := bind_eq_ok.mp h
        obtain rfl := pure_eq_ok.mp h
        exact writes_lift_bind hc ((writes_write c).seq (ih hcs))

/-- Writing stops at the first step whose command cannot be had. Those of the steps before it are
written by then. -/
lemma exists_writes_steps (h : stepCommands command payee least amount steps = .error e) :
    ∃ front s back cs, steps = front ++ s :: back ∧
      (∀ s ∈ front, ∃ payee amount least c, command payee amount least s = .ok c) ∧
      (∃ payee amount least, command payee amount least s = .error e) ∧
      cs.length = front.length ∧
      Writes (writeSteps command payee least amount steps) cs (.error e) := by
  induction steps generalizing amount with
  | nil => cases h
  | cons s steps ih =>
      rcases steps with _ | ⟨s', steps⟩
      · rcases bind_eq_error.mp h with hc | ⟨c, -, h⟩
        · exact ⟨[], s, [], [], rfl, List.forall_mem_nil _, ⟨_, _, _, hc⟩, rfl,
            writes_lift_error hc⟩
        · cases h
      · rcases bind_eq_error.mp h with hc | ⟨c, hc, h⟩
        · exact ⟨[], s, _, [], rfl, List.forall_mem_nil _, ⟨_, _, _, hc⟩, rfl,
            writes_lift_error hc⟩
        · rcases bind_eq_error.mp h with hrest | ⟨cs, -, h⟩
          · obtain ⟨front, t, back, cs, hsteps, hfront, ht, hlen, hwrites⟩ := ih hrest
            exact ⟨s :: front, t, back, c :: cs, by rw [hsteps]; rfl,
              List.forall_mem_cons.mpr ⟨⟨_, _, _, c, hc⟩, hfront⟩, ht, congrArg Nat.succ hlen,
              writes_lift_bind hc ((writes_write c).seq hwrites)⟩
          · cases h

end Chain

/-! ### Calls one after the other -/

/-- Calls on one plan, with what each comes to. A call that fails is passed over. -/
def attempts (ws : List (Writing α)) : StateM Plan (List (Except Error α)) := ws.mapM ExceptT.run

/-- What a call comes to on an empty plan. -/
def alone (w : Writing α) : Except Error α := (w.on .empty).1

/-- The entries that a call appends to an empty plan, if it succeeds. -/
def entries (w : Writing α) : List Entry :=
  match w.on .empty with
  | (.ok _, p) => p.entries
  | (.error _, _) => []

/-- A call that appends all of its commands, or none. -/
def Whole (w : Writing α) : Prop :=
  (∃ cs a, w.Writes cs (.ok a)) ∨ ∃ e, w.Writes [] (.error e)

lemma Follows.whole_drafted {x : Except Error (List Command × α)} (h : w.Follows x) :
    w.drafted.Whole := by
  rcases x with e | ⟨cs, a⟩
  · obtain ⟨cs, h⟩ := h
    exact .inr ⟨e, h.drafted_error⟩
  · exact .inl ⟨cs, a, h.drafted⟩

lemma Whole.on_eq (h : Whole w) (p : Plan) : w.on p = (w.alone, ⟨p.entries ++ w.entries⟩) := by
  rcases h with ⟨cs, a, h⟩ | ⟨e, h⟩
  · rw [h p, alone, entries, h .empty]
    rfl
  · rw [h p, alone, entries, h .empty]
    rfl

lemma run_attempts_cons (ws : List (Writing α)) (p : Plan) : (attempts (w :: ws)).run p =
    ((w.on p).1 :: ((attempts ws).run (w.on p).2).1, ((attempts ws).run (w.on p).2).2) := by
  rw [attempts, List.mapM_cons]
  rfl

/-- The plan that calls leave, by induction on them: each finds all that those before it appended,
and comes to the same as alone. -/
lemma run_attempts {ws : List (Writing α)} (h : ∀ w ∈ ws, w.Whole) (p : Plan) :
    (attempts ws).run p = (ws.map alone, ⟨p.entries ++ ws.flatMap entries⟩) := by
  induction ws generalizing p with
  | nil => exact congrArg (Prod.mk _) (append_empty p).symm
  | cons w ws ih =>
      rw [run_attempts_cons, (h w List.mem_cons_self).on_eq,
        ih fun w hw => h w (List.mem_cons_of_mem _ hw), List.flatMap_cons, List.append_assoc]
      rfl

end Writing

end Plan

/-! ### Routes -/

open Plan (Writing)
open Plan.Writing

/-- A step that is not written is a swap through a pool whose fee has no room. -/
lemma Step.command_of_not_packable {s : Step} {side : TradeType} {payee : Address}
    {amount least : Amount} (h : ¬ s.Packable) : ∃ a b p, s = .swap a b p ∧ ¬ p.Packable ∧
      s.command side payee amount least = .error (.feeTooWide p.fee) := by
  simp only [Packable, not_forall] at h
  obtain ⟨p, hp, hpack⟩ := h
  obtain ⟨a, b, rfl⟩ : ∃ a b, s = .swap a b p := by
    cases s <;> simp_all [pool?]
  obtain ⟨hv3, hfee⟩ : p.protocol = .v3 ∧ 2 ^ 24 ≤ p.fee.toNat := by
    simpa only [Pool.Packable, not_forall, exists_prop, not_lt] using hpack
  have hwrite : Path.IdentFormat.fee.write p.fee = .error (.feeTooWide p.fee) :=
    if_neg (by omega)
  refine ⟨a, b, p, rfl, hpack, ?_⟩
  cases side <;> simp [command, SwapPath.ofSwap, SwapPath.through, hv3, SwapPath.pack,
    SwapPath.poolFee_of_v3 hv3, Path.Packed.encode, Path.Packed.encodeHops, Path.Packed.reverse,
    hwrite, bind, Except.bind, pure, Except.pure]

namespace PoolRoute

variable {r : PoolRoute} {t : RouteTerms}

/-- Writes the swap of a route. -/
def write (r : PoolRoute) (t : RouteTerms) : Writing Amount := do
  let path ← SwapPath.ofRoute r t.tradeType
  let (exact, bound) := match t.tradeType with
    | .exactInput => (t.amountIn, t.amountOut)
    | .exactOutput => (t.amountOut, t.amountIn)
  Writing.write (.swap t.tradeType path t.recipient exact bound)
  return t.amountOut

lemma follows_write : (r.write t).Follows (r.encode t) :=
  follows_lift_bind fun _ _ => (writes_write _).seq (writes_lift (.ok t.amountOut))

end PoolRoute

namespace BoostedRoute

variable {payee : Address} {least amount : Amount} {r : BoostedRoute} {t : RouteTerms}
  {cs : List Command} {e : Error}

/-- Writes the steps of a route as they come where the input is fixed. -/
def writeExactInput (r : BoostedRoute) (t : RouteTerms) : Writing Amount := do
  writeSteps (fun payee amount least s => s.command .exactInput payee amount least)
    t.recipient t.amountOut t.amountIn r.steps
  return t.amountOut

/-- Writes the steps of a route, and what leads back to its input, on a draft. -/
def writeExactOutput (r : BoostedRoute) (t : RouteTerms) : Writing Amount := do
  let amounts ← r.outputAmounts t
  let delivered ← r.delivered t.buffer amounts
  let spent := if r.steps.any Step.isSwap then t.amountIn else t.quotedIn
  drafted do
    writeSteps (fun payee amount least s => exactOutputCommand payee amount least s.2 s.1)
      t.recipient delivered spent (r.steps.zip amounts)
    r.unwind.forM Writing.write
  return delivered

def write (r : BoostedRoute) (t : RouteTerms) : Writing Amount :=
  match t.tradeType with
  | .exactInput => r.writeExactInput t
  | .exactOutput => r.writeExactOutput t

lemma exactInputCommands_eq {steps : List Step} : exactInputCommands payee least amount steps =
    stepCommands (fun payee amount least s => s.command .exactInput payee amount least)
      payee least amount steps := by
  induction steps generalizing amount with
  | nil => rfl
  | cons s steps ih =>
      rcases steps with _ | ⟨s', steps⟩
      · rfl
      · simp only [exactInputCommands, stepCommands, ih]

lemma exactOutputCommands_eq {steps : List (Step × Amount)} :
    exactOutputCommands payee least amount steps =
      stepCommands (fun payee amount least s => exactOutputCommand payee amount least s.2 s.1)
        payee least amount steps := by
  induction steps generalizing amount with
  | nil => rfl
  | cons s steps ih =>
      rcases steps with _ | ⟨s', steps⟩
      · rfl
      · simp only [exactOutputCommands, stepCommands, ih]

lemma follows_writeExactInput (ht : t.tradeType = .exactInput) :
    (r.writeExactInput t).Follows (r.encode t) := by
  rw [encode.eq_def, ht]
  dsimp only
  rw [exactInputCommands_eq]
  cases hcs : stepCommands _ t.recipient t.amountOut t.amountIn r.steps with
  | error e =>
      obtain ⟨_, _, _, cs, -, -, -, -, hwrites⟩ := exists_writes_steps hcs
      exact ⟨cs, hwrites.bind_error⟩
  | ok cs =>
      have hwrites := (writes_steps hcs).seq (writes_lift (.ok t.amountOut))
      rwa [List.append_nil] at hwrites

lemma follows_writeExactOutput (ht : t.tradeType = .exactOutput) :
    (r.writeExactOutput t).Follows (r.encode t) := by
  rw [encode.eq_def, ht]
  refine follows_lift_bind fun amounts _ => follows_lift_bind fun delivered _ => ?_
  dsimp only
  rw [exactOutputCommands_eq]
  cases hcs : stepCommands _ t.recipient delivered
      (if r.steps.any Step.isSwap then t.amountIn else t.quotedIn) (r.steps.zip amounts) with
  | error e =>
      obtain ⟨_, _, _, cs, -, -, -, -, hwrites⟩ := exists_writes_steps hcs
      exact ⟨[], hwrites.bind_error.drafted_error.bind_error⟩
  | ok cs =>
      have hwrites := ((writes_steps hcs).seq (writes_forM r.unwind)).drafted.seq
        (writes_lift (.ok delivered))
      rwa [List.append_nil] at hwrites

lemma follows_write : (r.write t).Follows (r.encode t) := by
  unfold write
  cases ht : t.tradeType with
  | exactInput => exact follows_writeExactInput ht
  | exactOutput => exact follows_writeExactOutput ht

/-- With a fixed input the first swap without room for its fee ends the writing. -/
lemma exists_writes_of_not_packable (ht : t.tradeType = .exactInput)
    (h : ∃ q ∈ r.pools, ¬ q.Packable) : ∃ front a b q back cs,
      r.steps = front ++ .swap a b q :: back ∧ (∀ s ∈ front, s.Packable) ∧ ¬ q.Packable ∧
      cs.length = front.length ∧ (r.write t).Writes cs (.error (.feeTooWide q.fee)) := by
  obtain ⟨e, hsteps⟩ :
      ∃ e, exactInputCommands t.recipient t.amountOut t.amountIn r.steps = .error e := by
    rw [exists_error_iff, exists_exactInputCommands, forall_steps_packable]
    exact fun hall => h.elim fun q hq => hq.2 (hall q hq.1)
  rw [exactInputCommands_eq] at hsteps
  obtain ⟨front, s, back, cs, hr, hfront, ⟨_, _, _, hs⟩, hlen, hwrites⟩ :=
    exists_writes_steps hsteps
  have hpack : ¬ s.Packable := fun hpack => by
    obtain ⟨c, hc⟩ := Step.exists_command.mpr hpack
    cases hc.symm.trans hs
  obtain ⟨a, b, q, rfl, hq, hcommand⟩ := Step.command_of_not_packable hpack
  obtain rfl := Except.error.inj (hs.symm.trans hcommand)
  refine ⟨front, a, b, q, back, cs, hr, fun s hs => ?_, hq, hlen, ?_⟩
  · obtain ⟨_, _, _, hc⟩ := hfront s hs
    exact Step.exists_command.mp hc
  · rw [write, ht]
    exact hwrites.bind_error

end BoostedRoute

namespace Route

/-- Writes a route straight away, as the encoder of its kind does. -/
def writeStraight (r : Route) (t : RouteTerms) : Writing Amount :=
  match r with
  | pooled r => r.write t
  | boosted r => r.write t

/-- Writes a route on a draft. -/
def write (r : Route) (t : RouteTerms) : Writing Amount := (r.writeStraight t).drafted

lemma follows_writeStraight (r : Route) (t : RouteTerms) :
    (r.writeStraight t).Follows (r.encode t) := by
  cases r with
  | pooled r => exact PoolRoute.follows_write
  | boosted r => exact BoostedRoute.follows_write

lemma on_write (r : Route) (t : RouteTerms) (p : Plan) : (r.write t).on p =
    match p.pushRoute r t with
    | .ok (q, least) => (.ok least, q)
    | .error e => (.error e, p) := by
  rw [write, (follows_writeStraight r t).on_drafted, Plan.pushRoute]
  rcases r.encode t with e | ⟨cs, least⟩ <;> rfl

/-- **A route is written as a whole or not at all.** Writing it in place comes to what
`Plan.pushRoute` does, and leaves the plan as it was where that fails. After any calls, those that
fail passed over, a plan holds what it held before and then, in order, the entries of the calls that
succeed; each comes to the same as on an empty plan, and appends the same. Where the fee of a pool
has no room in a boosted route with a fixed input, its encoder stops at the first such swap, with
the steps before it written; none of them stays. -/
theorem write_all_or_nothing :
    (∀ (r : Route) (t : RouteTerms) (p : Plan), (r.write t).on p = match p.pushRoute r t with
      | .ok (q, least) => (.ok least, q)
      | .error e => (.error e, p)) ∧
    (∀ (calls : List (Route × RouteTerms)) (p : Plan),
      (attempts (calls.map fun (r, t) => r.write t)).run p =
        (calls.map fun (r, t) => (r.write t).alone,
          ⟨p.entries ++ calls.flatMap fun (r, t) => (r.write t).entries⟩)) ∧
    ∀ (r : BoostedRoute) (t : RouteTerms) (p : Plan), t.tradeType = .exactInput →
      (∃ q ∈ r.pools, ¬ q.Packable) → ∃ front a b q back cs,
        r.steps = front ++ .swap a b q :: back ∧ (∀ s ∈ front, s.Packable) ∧ ¬ q.Packable ∧
        cs.length = front.length ∧
        ((boosted r).writeStraight t).on p =
          (.error (.feeTooWide q.fee), p ++ .ofCommands cs) ∧
        ((boosted r).write t).on p = (.error (.feeTooWide q.fee), p) := by
  refine ⟨on_write, fun calls p => ?_, fun r t p ht hfee => ?_⟩
  · have hwhole : ∀ w ∈ calls.map fun (r, t) => r.write t, Whole w :=
      List.forall_mem_map.mpr fun (r, t) _ => (follows_writeStraight r t).whole_drafted
    rw [run_attempts hwhole, List.map_map, List.flatMap_map]
    rfl
  · obtain ⟨front, a, b, q, back, cs, hr, hfront, hq, hlen, hwrites⟩ :=
      BoostedRoute.exists_writes_of_not_packable ht hfee
    exact ⟨front, a, b, q, back, cs, hr, hfront, hq, hlen, hwrites p,
      hwrites.drafted_error.on_eq_self p⟩

/-! ### A fee without room behind a deposit -/

namespace Sample

/-- A pool whose fee is the first one too wide for a path. -/
def widePool : Pool := ⟨.vault (share 1), .token (token 2), .v3 0x1000000 0 0 0⟩

def taken : Plan := .ofCommands [.wrapEth Sentinel.router 10]

/-- Written straight away, the deposit before a fee without room stays on the plan. On a draft it
does not. -/
theorem deposit_not_left : ∃ r,
    BoostedRoute.ofPath [.token (token 1), .vault (share 1), .token (token 2)] [widePool] = .ok r ∧
    (∃ deposit, ((boosted r).writeStraight (.plain .exactInput Sentinel.caller 10 9)).on taken =
      (.error (.feeTooWide 0x1000000), taken ++ .ofCommands [deposit])) ∧
    ((boosted r).write (.plain .exactInput Sentinel.caller 10 9)).on taken =
      (.error (.feeTooWide 0x1000000), taken) := by
  have hsteps : BoostedRoute.steps? [.token (token 1), .vault (share 1), .token (token 2)]
      [widePool] = .ok [.wrap (share 1), .swap (.vault (share 1)) (.token (token 2)) widePool] := by
    rfl
  obtain ⟨-, -, hwide⟩ := write_all_or_nothing
  obtain ⟨front, a, b, q, back, cs, hr, -, -, hlen, hstraight, hwrite⟩ :=
    hwide ⟨_, _, _, hsteps⟩ (.plain .exactInput Sentinel.caller 10 9) taken rfl
      ⟨widePool, List.mem_singleton_self _, by unfold Pool.Packable; decide⟩
  rcases front with _ | ⟨deposit, _ | ⟨_, front⟩⟩
  · exact absurd (List.cons.inj hr).1 (by simp)
  · obtain ⟨hswap, -⟩ := List.cons.inj (List.cons.inj hr).2
    obtain ⟨-, -, rfl⟩ := Step.swap.inj hswap
    obtain ⟨deposit, rfl⟩ := List.length_eq_one_iff.mp hlen
    exact ⟨_, BoostedRoute.ofPath_of_ok hsteps, ⟨deposit, hstraight⟩, hwrite⟩
  · exact absurd (congrArg List.length hr) (by simp)

end Sample

end Route

end SwapPlan
