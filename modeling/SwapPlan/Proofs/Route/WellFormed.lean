import SwapPlan.Proofs.Outcome
import SwapPlan.Route
import Mathlib.Data.List.Nodup

/-!
Which paths have a route. All currencies are on one chain and only its ends are native; then a route
through pools takes one pool of its protocol for each hop, and a boosted route takes the pools in
order for just those neighbours that no vault relates.
-/

namespace SwapPlan

namespace Pool

variable {p : Pool} {a b : Currency}

/-- The currencies of a pool wrap to those of a hop, in one order or the other. -/
def Joins (p : Pool) (a b : Currency) : Prop :=
  p.token0.wrapsTo a = true ∧ p.token1.wrapsTo b = true ∨
    p.token1.wrapsTo a = true ∧ p.token0.wrapsTo b = true

/-- A pool leads between different currencies if it holds the one and the other. -/
lemma connects_iff (hne : a.wrapsTo b = false) : p.connects a b = true ↔ p.Joins a b := by
  have hone {c : Currency} (ha : c.wrapsTo a = true) : c.wrapsTo b = false := by
    simp only [Currency.wrapsTo, Token.same, decide_eq_true_eq, decide_eq_false_iff_not] at ha hne ⊢
    rwa [ha.1, ha.2]
  unfold connects other? Joins
  cases h0 : p.token0.wrapsTo a with
  | true => simp [hone h0]
  | false => cases p.token1.wrapsTo a <;> simp

end Pool

/-! ### Faults of a path -/

namespace Route

variable {path : List Currency} {a b : Currency} {p : Pool}

def OnOneChain (path : List Currency) : Prop := ∀ c ∈ path, ∀ d ∈ path, c.chainId = d.chainId

/-- A native currency stands only first or last. -/
def NativeAtEnds (path : List Currency) : Prop :=
  ∀ i c, path[i]? = some c → c.isNative = true → i = 0 ∨ i + 1 = path.length

lemma endpointFault?_eq_none :
    endpointFault? path = none ↔ OnOneChain path ∧ NativeAtEnds path := by
  have hone (c : Currency) (i : Nat) : (if c.chainId ≠ (path.head?.map Currency.chainId).getD 0 then
        some (Error.otherChain i)
      else if c.isNative ∧ i ≠ 0 ∧ i + 1 ≠ path.length then some (.nativeInside i) else none) = none ↔
      c.chainId = (path.head?.map Currency.chainId).getD 0 ∧
        (c.isNative = true → i = 0 ∨ i + 1 = path.length) := by
    split_ifs with hchain hinside
    · simp [hchain]
    · simp only [false_iff, not_and]
      tauto
    · simp only [true_iff]
      refine ⟨by simpa using hchain, ?_⟩
      tauto
  have hchain : (∀ c ∈ path, c.chainId = (path.head?.map Currency.chainId).getD 0) ↔
      OnOneChain path := by
    rcases path with _ | ⟨d, path⟩
    · simp [OnOneChain]
    · simp only [List.head?_cons, Option.map_some, Option.getD_some]
      exact ⟨fun h c hc d' hd' => (h c hc).trans (h d' hd').symm,
        fun h c hc => h c hc d List.mem_cons_self⟩
  rw [endpointFault?, List.findSome?_eq_none_iff, ← hchain]
  simp only [Prod.forall, List.mem_zipIdx_iff_getElem?, hone]
  constructor
  · intro h
    refine ⟨fun c hc => ?_, fun i c hi => (h c i hi).2⟩
    obtain ⟨i, hi⟩ := List.mem_iff_getElem?.mp hc
    exact (h c i hi).1
  · exact fun ⟨h, hnative⟩ c i hi => ⟨h c (List.mem_of_getElem? hi), hnative i c hi⟩

lemma hopFault?_eq_none {hop : Nat} :
    hopFault? hop p a b = none ↔ a.wrapsTo b = false ∧ p.Joins a b := by
  unfold hopFault?
  cases hne : a.wrapsTo b with
  | true => simp
  | false =>
      rw [← Pool.connects_iff hne]
      cases p.connects a b <;> simp

lemma getElem?_pairs {i : Nat} :
    (pairs path)[i]? = some (a, b) ↔ path[i]? = some a ∧ path[i + 1]? = some b := by
  rw [pairs, List.getElem?_zip_eq_some, List.getElem?_tail]

end Route

/-! ### Routes through pools -/

namespace PoolRoute

variable {protocol : Protocol} {path : List Currency} {pools : List Pool}

/-- A path through pools of one protocol, of which each hop leads from one token to another over a
pool that holds just the two. -/
structure WellFormed (protocol : Protocol) (path : List Currency) (pools : List Pool) : Prop where
  pools_ne_nil : pools ≠ []
  length_path : path.length = pools.length + 1
  protocol : ∀ p ∈ pools, p.protocol = protocol
  oneChain : Route.OnOneChain path
  nativeAtEnds : Route.NativeAtEnds path
  hops : ∀ i a b p, path[i]? = some a → path[i + 1]? = some b → pools[i]? = some p →
    a.wrapsTo b = false ∧ p.Joins a b

lemma fault?_eq_none : fault? protocol path pools = none ↔ WellFormed protocol path pools := by
  unfold fault?
  split_ifs with hnil hlen
  · exact iff_of_false (by simp) fun h => h.pools_ne_nil hnil
  · exact iff_of_false (by simp) fun h => hlen h.length_path
  · cases hforeign : pools.find? fun p => p.protocol ≠ protocol with
    | some p =>
        have hp : p.protocol ≠ protocol := by simpa using List.find?_some hforeign
        exact iff_of_false (by simp) fun h => hp (h.protocol p (List.mem_of_find?_eq_some hforeign))
    | none =>
        have hprotocol : ∀ p ∈ pools, p.protocol = protocol := by
          simpa using List.find?_eq_none.mp hforeign
        simp only [Option.or_eq_none_iff, Route.endpointFault?_eq_none, List.findSome?_eq_none_iff,
          Prod.forall, List.mem_zipIdx_iff_getElem?, List.getElem?_zip_eq_some,
          Route.getElem?_pairs, Route.hopFault?_eq_none, and_imp]
        constructor
        · rintro ⟨⟨hchain, hnative⟩, hhops⟩
          exact ⟨hnil, by omega, hprotocol, hchain, hnative, fun i a b p => hhops a b p i⟩
        · exact fun h => ⟨⟨h.oneChain, h.nativeAtEnds⟩, fun a b p i => h.hops i a b p⟩

lemma wellFormed (r : PoolRoute) : WellFormed r.protocol r.path r.pools :=
  fault?_eq_none.mp r.sound

lemma ofPath_of_none (h : fault? protocol path pools = none) :
    ofPath protocol path pools = .ok ⟨protocol, path, pools, h⟩ := by
  unfold ofPath
  split <;> simp_all

lemma ofPath_of_some {e : Error} (h : fault? protocol path pools = some e) :
    ofPath protocol path pools = .error e := by
  unfold ofPath
  split <;> simp_all

/-- A route is its protocol, its path and its pools. -/
lemma ofPath_eq_ok {r : PoolRoute} : ofPath protocol path pools = .ok r ↔
    r.protocol = protocol ∧ r.path = path ∧ r.pools = pools := by
  constructor
  · intro h
    cases hfault : fault? protocol path pools with
    | some e =>
        rw [ofPath_of_some hfault] at h
        cases h
    | none =>
        rw [ofPath_of_none hfault] at h
        obtain rfl := Except.ok.inj h
        exact ⟨rfl, rfl, rfl⟩
  · rintro ⟨rfl, rfl, rfl⟩
    exact ofPath_of_none r.sound

lemma exists_ofPath :
    (∃ r, ofPath protocol path pools = .ok r) ↔ WellFormed protocol path pools := by
  rw [← fault?_eq_none]
  cases h : fault? protocol path pools with
  | some e => simp [ofPath_of_some h]
  | none => simp [ofPath_of_none h]

end PoolRoute

/-! ### Boosted routes -/

namespace Currency

/-- Just one of two currencies is a vault share, and the vault holds what the other wraps to. -/
def vaultPair (a b : Currency) : Bool :=
  (a.asVault?.isSome != b.asVault?.isSome) && (a.isVaultOver b || b.isVaultOver a)

variable {a b : Currency} {w : Vault}

lemma vaultPair_vault_right : a.vaultPair (.vault w) = true ↔
    a.asVault? = none ∧ w.underlying.same a.wrapped = true := by
  cases a <;> simp [vaultPair, isVaultOver, asVault?]

lemma vaultPair_vault_left : (Currency.vault w).vaultPair b = true ↔
    b.asVault? = none ∧ w.underlying.same b.wrapped = true := by
  cases b <;> simp [vaultPair, isVaultOver, asVault?]

end Currency

namespace Step

variable {a b : Currency} {s s' : Step}

/-- The step that a boosted route takes from one currency to its neighbour: a deposit or a
redemption where a vault relates the two, else a swap through a pool that joins them. -/
inductive Taken (a b : Currency) : Step → Prop
  | wrap {w : Vault} (hpair : a.vaultPair b = true) (hb : b = .vault w) : Taken a b (wrap w)
  | unwrap {w : Vault} (hpair : a.vaultPair b = true) (ha : a = .vault w) : Taken a b (unwrap w)
  | swap {p : Pool} (hpair : a.vaultPair b = false) (hne : a.wrapsTo b = false)
    (hp : p.Joins a b) : Taken a b (swap a b p)

/-- A step from one currency to its neighbour on a path: a deposit to a vault or a redemption from
it just where the two are related by that vault, else a swap. -/
structure Leads (a b : Currency) (s : Step) : Prop where
  tokenIn : s.tokenIn.wrapsTo a = true
  tokenOut : s.tokenOut.wrapsTo b = true
  wrap_iff : ∀ w, s = wrap w ↔ a.vaultPair b = true ∧ b = .vault w
  unwrap_iff : ∀ w, s = unwrap w ↔ a.vaultPair b = true ∧ a = .vault w

lemma vaultStep?_eq_none : vaultStep? a b = none ↔ a.vaultPair b = false := by
  cases a <;> cases b <;> simp [vaultStep?, Currency.vaultPair, Currency.isVaultOver,
    Currency.asVault?]

lemma vaultPair_of_vaultStep? (h : vaultStep? a b = some s) : a.vaultPair b = true := by
  rw [← Bool.not_eq_false, ← vaultStep?_eq_none, h]
  simp

lemma taken_of_vaultStep? (h : vaultStep? a b = some s) : Taken a b s' ↔ s' = s := by
  have hpair := vaultPair_of_vaultStep? h
  have hs : (∃ w, b = .vault w ∧ a.asVault? = none ∧ s = wrap w) ∨
      ∃ w, a = .vault w ∧ b.asVault? = none ∧ s = unwrap w := by
    cases a <;> cases b <;> simp [vaultStep?, Currency.asVault?] at h ⊢ <;> exact h.2.symm
  constructor
  · intro htaken
    rcases hs with ⟨w, rfl, ha, rfl⟩ | ⟨w, rfl, hb, rfl⟩ <;> cases htaken <;>
      simp_all [Currency.asVault?]
  · rintro rfl
    rcases hs with ⟨w, hb, -, rfl⟩ | ⟨w, ha, -, rfl⟩
    · exact .wrap hpair hb
    · exact .unwrap hpair ha

lemma Taken.leads (h : Taken a b s) : s.Leads a b := by
  have hself (c : Currency) : c.wrapsTo c = true := by simp [Currency.wrapsTo, Token.same]
  cases h with
  | @wrap w hpair hb =>
      subst hb
      obtain ⟨ha, hunderlying⟩ := Currency.vaultPair_vault_right.mp hpair
      refine ⟨hunderlying, hself _, fun w' => by simp [hpair], fun w' => ?_⟩
      simp only [reduceCtorEq, false_iff, not_and]
      rintro - rfl
      cases ha
  | @unwrap w hpair ha =>
      subst ha
      obtain ⟨hb, hunderlying⟩ := Currency.vaultPair_vault_left.mp hpair
      refine ⟨hself _, hunderlying, fun w' => ?_, fun w' => by simp [hpair]⟩
      simp only [reduceCtorEq, false_iff, not_and]
      rintro - rfl
      cases hb
  | swap hpair =>
      refine ⟨hself a, hself b, fun w => ?_, fun w => ?_⟩ <;> simp [hpair]

lemma pool?_of_vaultStep? (h : vaultStep? a b = some s) : s.pool? = none := by
  cases (taken_of_vaultStep? h).mpr rfl with
  | wrap => rfl
  | unwrap => rfl
  | swap hpair => rw [vaultStep?_eq_none.mpr hpair] at h; cases h

lemma taken_of_not_vaultPair (h : a.vaultPair b = false) :
    Taken a b s ↔ ∃ p, s = swap a b p ∧ a.wrapsTo b = false ∧ p.Joins a b := by
  constructor
  · rintro (⟨hpair, -⟩ | ⟨hpair, -⟩ | ⟨-, hne, hp⟩)
    · exact absurd (hpair.symm.trans h) (by simp)
    · exact absurd (hpair.symm.trans h) (by simp)
    · exact ⟨_, rfl, hne, hp⟩
  · rintro ⟨p, rfl, hne, hp⟩
    exact .swap h hne hp

end Step

namespace BoostedRoute

open Step (Taken)

variable {path : List Currency} {pools left : List Pool} {steps : List Step} {a b : Currency}
  {pairs : List (Currency × Currency)} {hop : Nat}

/-! #### The walk along a path -/

lemma walk_vault {s : Step} (h : Step.vaultStep? a b = some s) :
    walk hop ((a, b) :: pairs) pools = .ok (steps, left) ↔
      ∃ rest, steps = s :: rest ∧ walk (hop + 1) pairs pools = .ok (rest, left) := by
  rw [walk.eq_def]
  simp only [h, bind_eq_ok, pure_eq_ok, Prod.exists, Prod.mk.injEq]
  constructor
  · rintro ⟨rest, left, hwalk, rfl, rfl⟩
    exact ⟨rest, rfl, hwalk⟩
  · rintro ⟨rest, rfl, hwalk⟩
    exact ⟨rest, left, hwalk, rfl, rfl⟩

lemma walk_pool (h : Step.vaultStep? a b = none) :
    walk hop ((a, b) :: pairs) pools = .ok (steps, left) ↔ ∃ p pools' rest,
      pools = p :: pools' ∧ steps = .swap a b p :: rest ∧ Route.hopFault? hop p a b = none ∧
        walk (hop + 1) pairs pools' = .ok (rest, left) := by
  rw [walk.eq_def]
  simp only [h]
  rcases pools with _ | ⟨p, pools⟩
  · simp
  · cases hfault : Route.hopFault? hop p a b with
    | some e => simp_all
    | none =>
        simp only [hfault, bind_eq_ok, pure_eq_ok, Prod.exists, Prod.mk.injEq]
        constructor
        · rintro ⟨rest, left, hwalk, rfl, rfl⟩
          exact ⟨p, pools, rest, rfl, rfl, hfault, hwalk⟩
        · rintro ⟨p', pools', rest, heq, rfl, -, hwalk⟩
          obtain ⟨rfl, rfl⟩ := List.cons.inj heq
          exact ⟨rest, left, hwalk, rfl, rfl⟩

/-- A walk takes a step for every pair, and the pools of its swaps in order. -/
lemma walk_eq_ok : walk hop pairs pools = .ok (steps, left) ↔
    List.Forall₂ (fun ab s => Taken ab.1 ab.2 s) pairs steps ∧
      pools = steps.filterMap Step.pool? ++ left := by
  induction pairs generalizing hop pools steps with
  | nil =>
      simp only [walk, Except.ok.injEq, Prod.mk.injEq, List.forall₂_nil_left_iff]
      constructor <;> rintro ⟨rfl, rfl⟩ <;> exact ⟨rfl, rfl⟩
  | cons ab pairs ih =>
      obtain ⟨a, b⟩ := ab
      rw [List.forall₂_cons_left_iff]
      cases hv : Step.vaultStep? a b with
      | some s =>
          have hs : s.pool? = none := Step.pool?_of_vaultStep? hv
          simp only [walk_vault hv, ih, Step.taken_of_vaultStep? hv]
          constructor
          · rintro ⟨rest, rfl, hrest, hpools⟩
            exact ⟨⟨s, rest, rfl, hrest, rfl⟩, by rwa [List.filterMap_cons_none hs]⟩
          · rintro ⟨⟨_, rest, rfl, hrest, rfl⟩, hpools⟩
            exact ⟨rest, rfl, hrest, by rwa [List.filterMap_cons_none hs] at hpools⟩
      | none =>
          simp only [walk_pool hv, ih, Route.hopFault?_eq_none,
            Step.taken_of_not_vaultPair (Step.vaultStep?_eq_none.mp hv)]
          constructor
          · rintro ⟨p, _, rest, rfl, rfl, hp, hrest, rfl⟩
            exact ⟨⟨_, rest, ⟨p, rfl, hp⟩, hrest, rfl⟩, rfl⟩
          · rintro ⟨⟨_, rest, ⟨p, rfl, hp⟩, hrest, rfl⟩, rfl⟩
            exact ⟨p, _, rest, rfl, rfl, hp, hrest, rfl⟩

lemma revisited?_eq_none {seen : List Address} : revisited? seen path = none ↔
    (path.map Currency.address).Nodup ∧ ∀ c ∈ path, c.address ∉ seen := by
  induction path generalizing seen with
  | nil => simp [revisited?]
  | cons c path ih =>
      rw [revisited?, List.map_cons, List.nodup_cons, List.forall_mem_cons]
      split_ifs with hc
      · simp [hc]
      · simp only [ih, List.mem_cons, not_or, List.mem_map, not_exists, not_and, hc,
          not_false_iff, true_and, imp_and, forall_and]
        tauto

/-- **The steps of a path, taken apart.** -/
theorem steps?_eq_ok : steps? path pools = .ok steps ↔
    2 ≤ path.length ∧ (Route.OnOneChain path ∧ Route.NativeAtEnds path) ∧
      (path.map Currency.address).Nodup ∧
      List.Forall₂ (fun ab s => Taken ab.1 ab.2 s) (Route.pairs path) steps ∧
      pools = steps.filterMap Step.pool? := by
  have hnodup : (path.map Currency.address).Nodup ↔ revisited? [] path = none := by
    simp [revisited?_eq_none]
  rw [hnodup, ← Route.endpointFault?_eq_none]
  unfold steps?
  split_ifs with hlen
  · exact iff_of_false (by simp) fun h => by omega
  · cases Route.endpointFault? path with
    | some e => simp
    | none =>
        cases revisited? [] path with
        | some a => simp
        | none =>
            simp only [bind_eq_ok, Prod.exists, walk_eq_ok]
            constructor
            · rintro ⟨rest, left, ⟨htaken, hpools⟩, hdone⟩
              split_ifs at hdone with hleft
              obtain rfl := pure_eq_ok.mp hdone
              rw [hleft, List.append_nil] at hpools
              exact ⟨by omega, trivial, trivial, htaken, hpools⟩
            · rintro ⟨-, -, -, htaken, hpools⟩
              exact ⟨steps, [], ⟨htaken, by rwa [List.append_nil]⟩, rfl⟩

lemma ofPath_of_ok {steps : List Step} (h : steps? path pools = .ok steps) :
    ofPath path pools = .ok ⟨path, pools, steps, h⟩ := by
  unfold ofPath
  split
  · rename_i e he
    rw [h] at he
    cases he
  · rename_i steps' hsteps
    obtain rfl := Except.ok.inj (h.symm.trans hsteps)
    rfl

lemma ofPath_of_error {e : Error} (h : steps? path pools = .error e) :
    ofPath path pools = .error e := by
  unfold ofPath
  split <;> simp_all

lemma ofPath_eq_ok {r : BoostedRoute} : ofPath path pools = .ok r ↔
    r.path = path ∧ r.pools = pools ∧ steps? path pools = .ok r.steps := by
  constructor
  · intro h
    cases hsteps : steps? path pools with
    | error e =>
        rw [ofPath_of_error hsteps] at h
        cases h
    | ok steps =>
        rw [ofPath_of_ok hsteps] at h
        obtain rfl := Except.ok.inj h
        exact ⟨rfl, rfl, rfl⟩
  · rintro ⟨rfl, rfl, hsteps⟩
    exact ofPath_of_ok hsteps

/-! #### Paths that have a route -/

/-- The neighbours of a path that no vault relates. -/
def swapPairs (path : List Currency) : List (Currency × Currency) :=
  (Route.pairs path).filter fun (a, b) => !a.vaultPair b

/-- A path of distinct tokens, and pools that join, in order, the neighbours that no vault
relates. -/
structure WellFormed (path : List Currency) (pools : List Pool) : Prop where
  two_le_length_path : 2 ≤ path.length
  oneChain : Route.OnOneChain path
  nativeAtEnds : Route.NativeAtEnds path
  distinct : (path.map Currency.address).Nodup
  pools : List.Forall₂ (fun ab p => p.Joins ab.1 ab.2) (swapPairs path) pools

/-- Steps can be taken over all pairs if a pool is left for each that no vault relates. -/
lemma exists_taken (hne : ∀ a b, (a, b) ∈ pairs → a.wrapsTo b = false) :
    (∃ steps, List.Forall₂ (fun ab s => Taken ab.1 ab.2 s) pairs steps ∧
        pools = steps.filterMap Step.pool?) ↔
      List.Forall₂ (fun ab p => p.Joins ab.1 ab.2)
        (pairs.filter fun (a, b) => !a.vaultPair b) pools := by
  induction pairs generalizing pools with
  | nil => simp
  | cons ab pairs ih =>
      obtain ⟨a, b⟩ := ab
      have hrest {pools : List Pool} := @ih pools fun a b hab => hne a b (List.mem_cons_of_mem _ hab)
      simp only [List.forall₂_cons_left_iff, List.filter_cons]
      cases hv : Step.vaultStep? a b with
      | some s =>
          have hpair := Step.vaultPair_of_vaultStep? hv
          simp only [Step.taken_of_vaultStep? hv, hpair, Bool.not_true, Bool.false_eq_true, if_false,
            ← hrest]
          constructor
          · rintro ⟨_, ⟨_, steps, rfl, hsteps, rfl⟩, rfl⟩
            exact ⟨steps, hsteps, List.filterMap_cons_none (Step.pool?_of_vaultStep? hv)⟩
          · rintro ⟨steps, hsteps, rfl⟩
            exact ⟨_, ⟨s, steps, rfl, hsteps, rfl⟩,
              (List.filterMap_cons_none (Step.pool?_of_vaultStep? hv)).symm⟩
      | none =>
          have hpair := Step.vaultStep?_eq_none.mp hv
          simp only [Step.taken_of_not_vaultPair hpair, hpair, Bool.not_false, if_true,
            List.forall₂_cons_left_iff, ← hrest, hne a b List.mem_cons_self, true_and]
          constructor
          · rintro ⟨_, ⟨_, steps, ⟨p, rfl, hp⟩, hsteps, rfl⟩, rfl⟩
            exact ⟨p, _, hp, ⟨steps, hsteps, rfl⟩, rfl⟩
          · rintro ⟨p, _, hp, ⟨steps, hsteps, rfl⟩, rfl⟩
            exact ⟨_, ⟨_, steps, ⟨p, rfl, hp⟩, hsteps, rfl⟩, rfl⟩

/-- Neighbours on a path of distinct tokens differ. -/
lemma wrapsTo_of_mem_pairs (h : (path.map Currency.address).Nodup)
    (hab : (a, b) ∈ Route.pairs path) : a.wrapsTo b = false := by
  obtain ⟨i, hi⟩ := List.mem_iff_getElem?.mp hab
  obtain ⟨ha, hb⟩ := Route.getElem?_pairs.mp hi
  have hne := List.nodup_iff_getElem?_ne_getElem?.mp h i (i + 1) (Nat.lt_succ_self i) (by
    rw [List.length_map]
    exact (List.getElem?_eq_some_iff.mp hb).1)
  rw [List.getElem?_map, List.getElem?_map, ha, hb] at hne
  simp only [Currency.wrapsTo, Token.same, decide_eq_false_iff_not]
  exact fun heq => hne (congrArg some heq.2)

lemma exists_ofPath : (∃ r, ofPath path pools = .ok r) ↔ WellFormed path pools := by
  constructor
  · rintro ⟨r, hr⟩
    obtain ⟨-, -, hsteps⟩ := ofPath_eq_ok.mp hr
    obtain ⟨hlen, ⟨hchain, hnative⟩, hnodup, htaken, hpools⟩ := steps?_eq_ok.mp hsteps
    exact ⟨hlen, hchain, hnative, hnodup,
      (exists_taken fun a b => wrapsTo_of_mem_pairs hnodup).mp ⟨_, htaken, hpools⟩⟩
  · rintro ⟨hlen, hchain, hnative, hnodup, hpools⟩
    obtain ⟨steps, htaken, hpools⟩ :=
      (exists_taken fun a b => wrapsTo_of_mem_pairs hnodup).mpr hpools
    exact ⟨_, ofPath_of_ok (steps?_eq_ok.mpr ⟨hlen, ⟨hchain, hnative⟩, hnodup, htaken, hpools⟩)⟩

end BoostedRoute

namespace Route

/-- **Routes exist just over well-formed paths.** The steps of a boosted route lead from each
currency of its path to the next, by way of a vault just where one relates the two, and its swaps
take all its pools in order. -/
theorem exists_iff_wellFormed :
    (∀ protocol path pools, (∃ r, PoolRoute.ofPath protocol path pools = .ok r) ↔
      PoolRoute.WellFormed protocol path pools) ∧
    (∀ path pools, (∃ r, BoostedRoute.ofPath path pools = .ok r) ↔
      BoostedRoute.WellFormed path pools) ∧
    ∀ path pools r, BoostedRoute.ofPath path pools = .ok r → r.path = path ∧ r.pools = pools ∧
      r.steps.length = path.length - 1 ∧ r.steps.filterMap Step.pool? = pools ∧
      ∀ i a b s, path[i]? = some a → path[i + 1]? = some b → r.steps[i]? = some s →
        s.Leads a b := by
  refine ⟨fun _ _ _ => PoolRoute.exists_ofPath, fun _ _ => BoostedRoute.exists_ofPath,
    fun path pools r h => ?_⟩
  obtain ⟨hpath, hpools, hsteps⟩ := BoostedRoute.ofPath_eq_ok.mp h
  obtain ⟨-, -, -, htaken, hused⟩ := BoostedRoute.steps?_eq_ok.mp hsteps
  refine ⟨hpath, hpools, ?_, hused.symm, fun i a b s ha hb hs => ?_⟩
  · rw [← htaken.length_eq, pairs, List.length_zip, List.length_tail]
    omega
  · have hmem : ((a, b), s) ∈ (pairs path).zip r.steps := List.mem_iff_getElem?.mpr
      ⟨i, List.getElem?_zip_eq_some.mpr ⟨getElem?_pairs.mpr ⟨ha, hb⟩, hs⟩⟩
    exact (List.forall₂_zip htaken hmem).leads

end Route

/-! ### A path over two vaults -/

namespace Route.Sample

def token (n : Nat) : Token := ⟨1, .ofNat n, 18, none⟩

def share (n : Nat) : Vault := ⟨token (n + 0x100), token n⟩

/-- The native currency, deposited as its wrapped token, swapped for shares and redeemed. -/
def path : List Currency :=
  [.native 1 (token 1), .vault (share 1), .vault (share 2), .token (token 2)]

def pool : Pool := ⟨.vault (share 2), .vault (share 1), .v2 0 0⟩

/-- The route of this path deposits first and redeems last. -/
theorem deposited_and_redeemed : ∃ r, BoostedRoute.ofPath path [pool] = .ok r ∧
    r.steps[0]? = some (.wrap (share 1)) ∧ r.steps[2]? = some (.unwrap (share 2)) := by
  obtain ⟨-, hexists, hroute⟩ := Route.exists_iff_wellFormed
  have hends : endpointFault? path = none := by decide
  obtain ⟨hchain, hnative⟩ := endpointFault?_eq_none.mp hends
  have hpools : BoostedRoute.swapPairs path = [(.vault (share 1), .vault (share 2))] := by decide
  obtain ⟨r, hr⟩ := (hexists path [pool]).mpr ⟨by decide, hchain, hnative, by decide, by
    rw [hpools]
    exact .cons (.inr ⟨by decide, by decide⟩) .nil⟩
  obtain ⟨-, -, hlen, -, hleads⟩ := hroute path [pool] r hr
  have hstep (i : Nat) (hi : i < 3) : ∃ s, r.steps[i]? = some s :=
    ⟨_, List.getElem?_eq_getElem (by rw [hlen]; exact hi)⟩
  obtain ⟨s, hs⟩ := hstep 0 (by decide)
  obtain ⟨s', hs'⟩ := hstep 2 (by decide)
  refine ⟨r, hr, ?_, ?_⟩
  · rw [hs, ((hleads 0 _ _ s rfl rfl hs).wrap_iff (share 1)).mpr ⟨by decide, rfl⟩]
  · rw [hs', ((hleads 2 _ _ s' rfl rfl hs').unwrap_iff (share 2)).mpr ⟨by decide, rfl⟩]

end Route.Sample

end SwapPlan
