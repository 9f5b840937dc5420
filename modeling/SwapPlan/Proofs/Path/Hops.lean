import SwapPlan.Proofs.Path.Boosted
import SwapPlan.Proofs.Route.Along
import Mathlib.Data.List.Chain

/-!
What a boosted path tells of its route. A vault step between two swaps could go with either of
them; it goes with the later one, and just the step behind the last swap goes with the one before
it. So every step of a route without two vault steps in a row has its place in one hop, and the
hops, read from the last to the first, spell the steps in order.
-/

namespace SwapPlan

/-- The deployer of a pool that is known by one. -/
def Pool.deployer? (p : Pool) : Option Address :=
  match p.state with
  | .integral deployer .. => some deployer
  | _ => none

lemma SwapPath.poolDeployer_eq_ok {p : Pool} {d : Address} :
    poolDeployer p = .ok d ↔ p.deployer? = some d := by
  obtain ⟨_, _, state⟩ := p
  cases state <;> simp [poolDeployer, Pool.deployer?]

lemma Pool.exists_deployer {p : Pool} : (∃ d, p.deployer? = some d) ↔ p.protocol = .integral := by
  obtain ⟨_, _, state⟩ := p
  cases state <;> simp [deployer?, protocol]

namespace Path.BoostedHop

open Step (Along)

/-- A step of a route, as far as a boosted path tells of it: a swap, which has no vault action, or
a vault step. -/
structure Move where
  action : VaultAction
  tokenIn : Address
  tokenOut : Address
  deployer : Option Address
deriving DecidableEq

def Move.ofStep : Step → Move
  | .wrap v => ⟨.wrap, v.underlying.address, v.address, none⟩
  | .unwrap v => ⟨.unwrap, v.address, v.underlying.address, none⟩
  | .swap a b p => ⟨.none, a.address, b.address, p.deployer?⟩

/-- The vault step of an action, if it is one. -/
def Move.ofAction (a : VaultAction) (tokenIn tokenOut : Address) : List Move :=
  if a = .none then [] else [⟨a, tokenIn, tokenOut, none⟩]

/-- A swap with the vault steps before and behind it. -/
def moves (h : BoostedHop) : List Move :=
  Move.ofAction h.wrapIn h.tokenIn h.poolTokenIn ++
    ⟨.none, h.poolTokenIn, h.poolTokenOut, some h.deployer⟩ ::
      Move.ofAction h.wrapOut h.poolTokenOut h.tokenOut

/-- A leg's swap between its vault steps. -/
def Leg.steps (l : Leg) : List Step :=
  l.before.toList ++ .swap l.tokenIn l.tokenOut l.pool :: l.after.toList

/-- Only vault steps stand beside the swap of a leg. -/
structure Leg.Sound (l : Leg) : Prop where
  before : ∀ s ∈ l.before, s.isSwap = false
  after : ∀ s ∈ l.after, s.isSwap = false

variable {steps : List Step} {before : Option Step} {l : Leg} {ls : List Leg} {h : BoostedHop}
  {hops : List BoostedHop} {ts : List Address} {bs : Bytes}

/-! ### The shape of a route -/

/-- No two vault steps come one after the other. -/
def Spaced (steps : List Step) : Prop := steps.IsChain fun s s' => s.isSwap ∨ s'.isSwap

lemma spaced_cons {s : Step} : Spaced (s :: steps) ↔
    (s.isSwap = false → ∀ s' ∈ steps.head?, s'.isSwap = true) ∧ Spaced steps := by
  rw [Spaced, List.isChain_cons, Spaced]
  cases s.isSwap <;> simp

/-- The positions of the swaps among steps of which the first stands at `k`. -/
def positions (k : Nat) (steps : List Step) : List Nat :=
  (steps.zipIdx k).filterMap fun (s, i) => if s.isSwap then some i else none

lemma positions_cons (k : Nat) (s : Step) (steps : List Step) : positions k (s :: steps) =
    if s.isSwap then k :: positions (k + 1) steps else positions (k + 1) steps := by
  rw [positions, List.zipIdx_cons, List.filterMap_cons]
  cases hs : s.isSwap <;> simp only [hs] <;> rfl

lemma positions_ne_nil {k : Nat} : positions k steps ≠ [] ↔ ∃ s ∈ steps, s.isSwap = true := by
  induction steps generalizing k with
  | nil => simp [positions]
  | cons s steps ih =>
      rw [positions_cons, List.exists_mem_cons_iff, ← ih (k := k + 1)]
      cases s.isSwap <;> simp

/-- The first number is at most `m`, and each one at most two above the one before it. -/
def Within : Nat → List Nat → Prop
  | _, [] => True
  | m, i :: is => i ≤ m ∧ Within (i + 2) is

lemma within_append {m i n : Nat} {is : List Nat} : Within m (i :: is ++ [n]) ↔
    i ≤ m ∧ ((i :: is).zip is).any (fun (i, j) => j - i > 2) = false ∧
      n ≤ (i :: is).getLast (List.cons_ne_nil i is) + 2 := by
  induction is generalizing m i with
  | nil => simp [Within]
  | cons j is ih =>
      rw [List.cons_append, Within, ih, List.zip_cons_cons, List.any_cons, Bool.or_eq_false_iff,
        List.getLast_cons_cons, decide_eq_false_iff_not]
      have hgap : ¬ j - i > 2 ↔ j ≤ i + 2 := by omega
      rw [hgap]
      tauto

/-- Swaps lie close together, and to the ends, where no two vault steps lie between them. Before
the step at `k` there is a swap if `m` is `k + 1`, and a vault step if `m` is `k`. -/
lemma within_positions {k m : Nat} (hm : m ≤ k + 1) :
    Within m (positions k steps ++ [k + steps.length]) ↔
      k ≤ m ∧ (k = m → ∀ s ∈ steps.head?, s.isSwap = true) ∧ Spaced steps := by
  induction steps generalizing k m with
  | nil => simp [positions, Within, Spaced]
  | cons s steps ih =>
      have hlen : k + (s :: steps).length = k + 1 + steps.length := by
        rw [List.length_cons]
        omega
      rw [positions_cons, spaced_cons, hlen]
      cases hs : s.isSwap with
      | true =>
          rw [if_pos rfl, List.cons_append, Within, ih (by omega)]
          simp [hs]
      | false =>
          -- a vault step moves the position on, but not the bound
          rw [if_neg Bool.false_ne_true, ih (by omega)]
          have hk : k + 1 ≤ m ↔ k ≤ m ∧ k ≠ m := by omega
          have hk' : k + 1 = m ↔ k ≤ m ∧ k ≠ m := by omega
          simp only [hk, hk', List.head?_cons, Option.mem_def, Option.some.injEq, forall_eq', hs,
            Bool.false_eq_true, imp_false, forall_const]
          tauto

/-- The swaps of a route take up its vault steps if no two of them come in a row. -/
lemma shapeFault?_eq_none :
    shapeFault? steps = none ↔ (∃ s ∈ steps, s.isSwap = true) ∧ Spaced steps := by
  have hpos : swapPositions steps = positions 0 steps := rfl
  have hwithin := @within_positions steps 0 1 (by omega)
  simp only [Nat.zero_add, Nat.zero_le, Nat.zero_ne_one, false_imp_iff, true_and] at hwithin
  rw [← positions_ne_nil (k := 0)]
  cases hcase : positions 0 steps with
  | nil => simp [shapeFault?, hpos, hcase]
  | cons i is =>
      rw [hcase, within_append] at hwithin
      rw [← hwithin]
      simp only [shapeFault?, hpos, hcase, List.head?_cons, List.tail_cons, ne_eq,
        reduceCtorEq, not_false_iff, true_and,
        List.getLast?_eq_some_getLast (List.cons_ne_nil i is)]
      by_cases hend : i > 1 ∨ steps.length - (i :: is).getLast (List.cons_ne_nil i is) > 2
      · rw [if_pos hend]
        simp only [reduceCtorEq, false_iff]
        omega
      · rw [if_neg hend]
        cases hgap : ((i :: is).zip is).any fun (i, j) => j - i > 2 with
        | true => simp
        | false =>
            simp only [Bool.false_eq_true, if_false, true_and, true_iff]
            omega

/-! ### Legs -/

lemma sound_of_mem_legs (hbefore : ∀ s ∈ before, s.isSwap = false) (hl : l ∈ legs before steps) :
    l.Sound := by
  induction steps generalizing before with
  | nil => simp [legs] at hl
  | cons s steps ih =>
      cases s with
      | swap a b p =>
          rw [legs] at hl
          split at hl
          · rcases List.mem_cons.mp hl with rfl | hl
            · exact ⟨hbefore, by simp⟩
            · exact ih (by simp) hl
          · rename_i hlast
            obtain rfl := List.mem_singleton.mp hl
            refine ⟨hbefore, fun s hs => ?_⟩
            rw [List.any_eq_true] at hlast
            exact Bool.eq_false_iff.mpr fun hswap => hlast ⟨s, List.mem_of_head? hs, hswap⟩
      | wrap v => exact ih (by simp [Step.isSwap]) hl
      | unwrap v => exact ih (by simp [Step.isSwap]) hl

/-- The legs of a route spell its steps. -/
lemma flatMap_legs (hbefore : ∀ s ∈ before, s.isSwap = false)
    (hswap : ∃ s ∈ steps, s.isSwap = true) (hspaced : Spaced (before.toList ++ steps)) :
    (legs before steps).flatMap Leg.steps = before.toList ++ steps := by
  induction steps generalizing before with
  | nil => simp at hswap
  | cons s steps ih =>
      have hrest : Spaced (s :: steps) := by
        cases before with
        | none => exact hspaced
        | some s' => exact (spaced_cons.mp hspaced).2
      cases hs : s.isSwap with
      | true =>
          obtain ⟨a, b, p, rfl⟩ : ∃ a b p, s = .swap a b p := by
            cases s <;> simp_all [Step.isSwap]
          rw [legs]
          split
          · -- the leg ends here, and nothing waits before the steps behind it
            rename_i hlater
            rw [List.any_eq_true] at hlater
            have hbehind : (legs none steps).flatMap Leg.steps = none.toList ++ steps :=
              ih (by simp) hlater (spaced_cons.mp hrest).2
            rw [List.flatMap_cons, hbehind, Leg.steps]
            simp
          · -- behind the last swap there is room for one vault step
            rename_i hlast
            have hnone : ∀ s ∈ steps, s.isSwap = false := by simpa using hlast
            have hshort : steps.head?.toList = steps := by
              rcases steps with _ | ⟨s, _ | ⟨s', steps⟩⟩
              · rfl
              · rfl
              · have hnext := (spaced_cons.mp (spaced_cons.mp hrest).2).1 (hnone s (by simp)) s'
                rw [hnone s' (by simp)] at hnext
                exact absurd (hnext rfl) Bool.false_ne_true
            rw [List.flatMap_singleton, Leg.steps, hshort]
      | false =>
          -- a vault step waits for the swap behind it, and no other one waits already
          obtain rfl : before = none := by
            cases before with
            | none => rfl
            | some s' =>
                have hnext := (spaced_cons.mp hspaced).1 (hbefore s' rfl) s rfl
                rw [hs] at hnext
                exact absurd hnext Bool.false_ne_true
          have hlegs : legs none (s :: steps) = legs (some s) steps := by
            cases s <;> first | rfl | simp [Step.isSwap] at hs
          have hlater : ∃ s ∈ steps, s.isSwap = true := by
            obtain ⟨s', hs', hswap⟩ := hswap
            rcases List.mem_cons.mp hs' with rfl | hs'
            · rw [hs] at hswap
              exact absurd hswap Bool.false_ne_true
            · exact ⟨s', hs', hswap⟩
          rw [hlegs, ih (by simpa using hs) hlater hspaced]
          rfl

/-! ### Hops -/

/-- The outer token of a hop differs from the pool's own just where a vault stands between them. -/
structure Tight (h : BoostedHop) : Prop where
  tokenIn : h.wrapIn = .none ↔ h.tokenIn = h.poolTokenIn
  tokenOut : h.wrapOut = .none ↔ h.tokenOut = h.poolTokenOut

/-- Beside a swap there is a vault step, which leads from one token to another, or none, and then
the two tokens are one. -/
lemma side {o : Option Step} (ho : ∀ s ∈ o, s.isSwap = false) (halong : Along ts o.toList)
    (hnodup : ts.Nodup) : ∃ t u, ts.head? = some t ∧ ts.getLast? = some u ∧
      (o.map Step.tokenIn).elim u Currency.address = t ∧
      (o.map Step.tokenOut).elim t Currency.address = u ∧
      Move.ofAction ((o.map VaultAction.ofStep).getD .none) t u = o.toList.map Move.ofStep ∧
      ((o.map VaultAction.ofStep).getD .none = .none ↔ t = u) := by
  rcases o with _ | s
  · cases halong with
    | nil t => exact ⟨t, t, rfl, rfl, rfl, rfl, rfl, by simp⟩
  · rcases halong with _ | ⟨rfl, rfl, ⟨⟩⟩
    have hs : s.isSwap = false := ho s rfl
    have hne : VaultAction.ofStep s ≠ .none := by
      cases s <;> simp_all [Step.isSwap, VaultAction.ofStep]
    have hmove : Move.ofStep s =
        ⟨.ofStep s, s.tokenIn.address, s.tokenOut.address, none⟩ := by
      cases s with
      | wrap v | unwrap v => rfl
      | swap a b p => cases hs
    have htokens : s.tokenIn.address ≠ s.tokenOut.address := by
      simpa using hnodup
    refine ⟨_, _, rfl, rfl, rfl, rfl, ?_, iff_of_false hne htokens⟩
    change Move.ofAction (.ofStep s) s.tokenIn.address s.tokenOut.address = [Move.ofStep s]
    rw [Move.ofAction, if_neg hne, hmove]

/-- A hop leads over the tokens of its leg, and tells the steps of it. -/
lemma of_ofLeg (hl : l.Sound) (halong : Along ts l.steps) (hnodup : ts.Nodup)
    (h' : ofLeg l = .ok h) :
    ts.head? = some h.tokenIn ∧ ts.getLast? = some h.tokenOut ∧
      h.moves = l.steps.map Move.ofStep ∧ h.Tight := by
  simp only [ofLeg, bind_eq_ok, pure_eq_ok, SwapPath.poolDeployer_eq_ok] at h'
  obtain ⟨d, hd, rfl⟩ := h'
  obtain ⟨us, x, vs, rfl, hbefore, hswap⟩ := halong.split
  rcases hswap with _ | ⟨hx, hy, hafter⟩
  rename_i y ws
  obtain rfl : l.tokenIn.address = x := hx
  obtain rfl : l.tokenOut.address = y := hy
  obtain ⟨t, u, ht, hu, hin, -, hmoves, htight⟩ :=
    side hl.before hbefore (hnodup.sublist (by simp))
  obtain ⟨t', u', ht', hu', -, hout, hmoves', htight'⟩ :=
    side hl.after hafter (hnodup.sublist (by simp))
  obtain rfl : u = l.tokenIn.address := by simpa using hu.symm
  obtain rfl : t' = l.tokenOut.address := by simpa using ht'.symm
  refine ⟨?_, ?_, ?_, ?_, ?_⟩
  · simpa [hin] using ht
  · simpa [hout] using hu'
  · simp [moves, Leg.steps, hin, hout, hmoves, hmoves', hd, Move.ofStep]
  · simpa [hin] using htight
  · simpa [hout, eq_comm] using htight'

/-- Hops of legs that follow each other share the token where they meet. -/
lemma of_ofLegs (hls : ∀ l ∈ ls, l.Sound) (halong : Along ts (ls.flatMap Leg.steps))
    (hnodup : ts.Nodup) (hhops : List.Forall₂ (fun l h => ofLeg l = .ok h) ls hops) :
    (∀ h ∈ hops.head?, ts.head? = some h.tokenIn) ∧
      hops.IsChain (fun g h => g.tokenOut = h.tokenIn) ∧
      hops.flatMap moves = (ls.flatMap Leg.steps).map Move.ofStep ∧ ∀ h ∈ hops, h.Tight := by
  induction hhops generalizing ts with
  | nil => simp
  | @cons l h ls hops hl _ ih =>
      rw [List.forall_mem_cons] at hls
      obtain ⟨us, x, vs, rfl, hfirst, hrest⟩ := Along.split (by rwa [List.flatMap_cons] at halong)
      obtain ⟨hin, hout, hmoves, htight⟩ :=
        of_ofLeg hls.1 hfirst (hnodup.sublist (by simp)) hl
      obtain ⟨hhead, hchain, hmoves', htight'⟩ := ih hls.2 hrest (hnodup.sublist (by simp))
      refine ⟨?_, ?_, ?_, ?_⟩
      · rintro _ ⟨⟩
        rw [← hin]
        cases us <;> rfl
      · -- the last token of this leg is the first one of the next
        rw [List.isChain_cons]
        refine ⟨fun g hg => Option.some.inj ?_, hchain⟩
        rw [← hout, ← hhead g hg]
        simp
      · rw [List.flatMap_cons, List.flatMap_cons, List.map_append, hmoves, hmoves']
      · exact List.forall_mem_cons.mpr ⟨htight, htight'⟩

/-! ### Routes -/

/-- Hops that spell steps: read from the last hop to the first, and tight at every vault. -/
structure Spell (hops : List BoostedHop) (steps : List Step) : Prop where
  moves : hops.reverse.flatMap BoostedHop.moves = steps.map Move.ofStep
  tight : ∀ h ∈ hops, h.Tight

lemma ofSteps_eq_ok : ofSteps steps = .ok hops ↔ ((∃ s ∈ steps, s.isSwap = true) ∧ Spaced steps) ∧
    List.Forall₂ (fun l h => ofLeg l = .ok h) (legs none steps) hops.reverse := by
  rw [← shapeFault?_eq_none, ← List.forall₂_reverse_iff, List.reverse_reverse, ← mapM_eq_ok,
    ofSteps]
  cases shapeFault? steps <;> simp

/-- The hops of a route are written. -/
lemma encode_of_ofSteps {r : BoostedRoute} (hhops : ofSteps r.steps = .ok hops) :
    (∃ bs, encode hops = .ok bs) ∧ Spell hops r.steps := by
  obtain ⟨⟨hswap, hspaced⟩, hlegs⟩ := ofSteps_eq_ok.mp hhops
  have hsteps : (legs none r.steps).flatMap Leg.steps = none.toList ++ r.steps :=
    flatMap_legs (by simp) hswap hspaced
  obtain ⟨hnodup, halong, -⟩ := r.along
  obtain ⟨-, hchain, hmoves, htight⟩ :=
    of_ofLegs (fun l hl => sound_of_mem_legs (by simp) hl) (hsteps ▸ halong) hnodup hlegs
  rw [hsteps] at hmoves
  refine ⟨exists_encode.mpr ⟨?_, ?_⟩, hmoves, by simpa using htight⟩
  · rintro rfl
    rw [List.reverse_nil, List.flatMap_nil, eq_comm, List.map_eq_nil_iff] at hmoves
    exact r.steps_ne_nil hmoves
  · rw [List.isChain_reverse] at hchain
    exact hchain.imp fun g h heq => heq.symm

lemma exists_ofLeg : (∃ h, ofLeg l = .ok h) ↔ l.pool.protocol = .integral := by
  simp only [← Pool.exists_deployer, ofLeg, bind_eq_ok, pure_eq_ok, SwapPath.poolDeployer_eq_ok]
  constructor
  · rintro ⟨_, d, hd, -⟩
    exact ⟨d, hd⟩
  · rintro ⟨d, hd⟩
    exact ⟨_, d, hd, rfl⟩

lemma Leg.Sound.pool_of_mem {s : Step} {p : Pool} (hl : l.Sound) (hs : s ∈ l.steps)
    (hp : s.pool? = some p) : p = l.pool := by
  have hswap : s.isSwap = true := by
    cases s <;> simp_all [Step.pool?, Step.isSwap]
  simp only [Leg.steps, List.mem_append, List.mem_cons, Option.mem_toList] at hs
  rcases hs with hs | rfl | hs
  · rw [hl.before s hs] at hswap
    exact absurd hswap Bool.false_ne_true
  · exact (Option.some.inj hp).symm
  · rw [hl.after s hs] at hswap
    exact absurd hswap Bool.false_ne_true

/-- Steps have hops if they have a shape that hops have, and every pool has a deployer. -/
lemma exists_ofSteps : (∃ hops, ofSteps steps = .ok hops) ↔
    (∃ s ∈ steps, s.isSwap = true) ∧
      (∀ s ∈ steps, ∀ p, s.pool? = some p → p.protocol = .integral) ∧ Spaced steps := by
  have hpools (hswap : ∃ s ∈ steps, s.isSwap = true) (hspaced : Spaced steps) :
      (∀ s ∈ steps, ∀ p, s.pool? = some p → p.protocol = .integral) ↔
        ∀ l ∈ legs none steps, ∃ h, ofLeg l = .ok h := by
    have hsteps : (legs none steps).flatMap Leg.steps = steps :=
      flatMap_legs (by simp) hswap hspaced
    have hsound : ∀ l ∈ legs none steps, l.Sound := fun l => sound_of_mem_legs (by simp)
    simp only [exists_ofLeg]
    constructor
    · intro h l hl
      refine h (.swap l.tokenIn l.tokenOut l.pool) ?_ l.pool rfl
      rw [← hsteps, List.mem_flatMap]
      exact ⟨l, hl, by simp [Leg.steps]⟩
    · intro h s hs p hp
      rw [← hsteps, List.mem_flatMap] at hs
      obtain ⟨l, hl, hs⟩ := hs
      rw [(hsound l hl).pool_of_mem hs hp]
      exact h l hl
  constructor
  · rintro ⟨hops, hhops⟩
    obtain ⟨⟨hswap, hspaced⟩, hlegs⟩ := ofSteps_eq_ok.mp hhops
    exact ⟨hswap, (hpools hswap hspaced).mpr (exists_mapM.mp ⟨_, mapM_eq_ok.mpr hlegs⟩), hspaced⟩
  · rintro ⟨hswap, hintegral, hspaced⟩
    obtain ⟨hops, hhops⟩ := exists_mapM.mpr ((hpools hswap hspaced).mp hintegral)
    refine ⟨hops.reverse, ofSteps_eq_ok.mpr ⟨⟨hswap, hspaced⟩, ?_⟩⟩
    rw [List.reverse_reverse]
    exact mapM_eq_ok.mp hhops

/-- **A boosted path spells the steps of its route.** -/
theorem encodeRoute_spells (r : BoostedRoute) :
    ((∃ bs, encodeRoute r = .ok bs) ↔ (∃ s ∈ r.steps, s.isSwap = true) ∧
      (∀ s ∈ r.steps, ∀ p, s.pool? = some p → p.protocol = .integral) ∧
      r.steps.IsChain fun s s' => s.isSwap = true ∨ s'.isSwap = true) ∧
    (∀ hops, ofSteps r.steps = .ok hops → ∃ bs, encode hops = .ok bs) ∧
    ∀ bs, encodeRoute r = .ok bs → ∃ hops, decode bs = .ok hops ∧ Spell hops r.steps := by
  have hroute (bs : Bytes) :
      encodeRoute r = .ok bs ↔ ∃ hops, ofSteps r.steps = .ok hops ∧ encode hops = .ok bs := by
    rw [encodeRoute, bind_eq_ok]
  refine ⟨?_, fun hops hhops => (encode_of_ofSteps hhops).1, fun bs hbs => ?_⟩
  · refine Iff.trans ?_ exists_ofSteps
    constructor
    · rintro ⟨bs, hbs⟩
      obtain ⟨hops, hhops, -⟩ := (hroute bs).mp hbs
      exact ⟨hops, hhops⟩
    · rintro ⟨hops, hhops⟩
      obtain ⟨⟨bs, hbs⟩, -⟩ := encode_of_ofSteps hhops
      exact ⟨bs, (hroute bs).mpr ⟨hops, hhops, hbs⟩⟩
  · obtain ⟨hops, hhops, hencode⟩ := (hroute bs).mp hbs
    refine ⟨hops, ?_, (encode_of_ofSteps hhops).2⟩
    simp only [encode_eq_ok, linked_iff_decodeRecords] at hencode
    exact decode_eq_ok.mpr hencode

end Path.BoostedHop

/-! ### A route of two swaps -/

namespace Path.Sample

open BoostedHop (encodeRoute decode)

def token (n : Nat) : Token := ⟨1, .ofNat n, 18, none⟩

def share (n : Nat) : Vault := ⟨token (n + 0x100), token n⟩

def pool (a b : Currency) : Pool := ⟨a, b, .integral (.ofNat 0xdd) 0 0 0 0⟩

/-- A deposit, a swap of shares, a redemption, a swap of tokens and a deposit. -/
def crossing : BoostedRoute where
  path := [.token (token 1), .vault (share 1), .vault (share 2), .token (token 2),
    .token (token 3), .vault (share 3)]
  pools := [pool (.vault (share 1)) (.vault (share 2)), pool (.token (token 2)) (.token (token 3))]
  steps := [.wrap (share 1),
    .swap (.vault (share 1)) (.vault (share 2)) (pool (.vault (share 1)) (.vault (share 2))),
    .unwrap (share 2),
    .swap (.token (token 2)) (.token (token 3)) (pool (.token (token 2)) (.token (token 3))),
    .wrap (share 3)]
  sound := by rfl

/-- All five steps are found in the two hops of the path. -/
theorem crossing_spelled : ∃ bs hops, encodeRoute crossing = .ok bs ∧ decode bs = .ok hops ∧
    BoostedHop.Spell hops crossing.steps := by
  obtain ⟨hencoded, -, hdecoded⟩ := BoostedHop.encodeRoute_spells crossing
  obtain ⟨bs, hbs⟩ := hencoded.mpr ⟨List.any_eq_true.mp (by decide),
    by simp [crossing, Step.pool?, pool, Pool.protocol], by simp [crossing, Step.isSwap]⟩
  obtain ⟨hops, hhops, hspell⟩ := hdecoded bs hbs
  exact ⟨bs, hops, hbs, hhops, hspell⟩

end Path.Sample

end SwapPlan
