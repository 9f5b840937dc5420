import SwapPlan.Quote.Quoter
import SwapPlan.Proofs.Path.Hops

/-!
The questions behind step amounts, seen from outside. An interpreter and vaults that note all that
is asked may answer as they like, and also refuse. Whatever they do, the steps of a route are asked
about from the last to the first, each for what the answer before it demands, and nothing more is
asked once one of them has failed.
-/

namespace SwapPlan

/-- Amounts by step, inputs and outputs apart. -/
def StepAmounts.ofPairs (amounts : List (Amount × Amount)) : StepAmounts :=
  ⟨amounts.map Prod.fst, amounts.map Prod.snd⟩

/-- What is asked of an interpreter or of a vault. -/
inductive Question
  | execute (call : QuoteCall)
  | executeBatch (calls : List QuoteCall)
  | preview (method : PreviewMethod) (vault : Address) (amount : Amount)
deriving DecidableEq

/-- An interpreter and vaults whose answers may hang on all that was asked before. -/
structure World where
  execute : List Question → QuoteCall → Except Error (List Bytes)
  executeBatch : List Question → List QuoteCall → Except Error (List (Option (List Bytes)))
  preview : List Question → PreviewMethod → Address → Amount → Except Error Amount

namespace World

/-- Computations that note what they ask. -/
abbrev Asking := StateM (List Question)

def backend (w : World) : QuoterBackend Asking where
  execute c := ExceptT.mk fun asked => (w.execute asked c, asked ++ [.execute c])
  executeBatch cs := ExceptT.mk fun asked => (w.executeBatch asked cs, asked ++ [.executeBatch cs])

def vaults (w : World) : VaultPreview Asking where
  preview method vault amount := ExceptT.mk fun asked =>
    (w.preview asked method vault amount, asked ++ [.preview method vault amount])

/-- The amount that the first output of a simulated swap tells. -/
def firstAmount : List Bytes → Except Error Amount
  | [] => .error .noOutput
  | raw :: _ =>
    match QuotePlan.swapOutput.decode raw with
    | some (amount, _) => .ok amount
    | none => .error .swapOutputUndecodable

/-- A plan of one swap that buys `out`. -/
def swapCall (path : SwapPath) (out : Amount) : QuoteCall :=
  (Plan.ofCommands [.swap .exactOutput path Sentinel.router out 0]).quoteCall

/-- What is asked about a step that has to put out `out`, after `asked`, and the answer. A swap
whose path cannot be written is not asked about. -/
def ask (w : World) (asked : List Question) (out : Amount) :
    Step → List Question × Except Error Amount
  | .wrap v => ([.preview .mint v.address out], w.preview asked .mint v.address out)
  | .unwrap v => ([.preview .withdraw v.address out], w.preview asked .withdraw v.address out)
  | .swap a b p =>
    match SwapPath.ofSwap a b p .exactOutput with
    | .error e => ([], .error e)
    | .ok path =>
      ([.execute (swapCall path out)], w.execute asked (swapCall path out) >>= firstAmount)

end World

namespace Quoter

variable {w : World} {asked : List Question} {out : Amount} {s : Step} {steps : List Step}

lemma run_bind {α β : Type} (x : ExceptT Error World.Asking α)
    (f : α → ExceptT Error World.Asking β) (asked : List Question) : (x >>= f).run.run asked =
    match x.run.run asked with
    | (.ok a, asked) => (f a).run.run asked
    | (.error e, asked) => (.error e, asked) := by
  simp only [ExceptT.run_bind, StateT.run_bind]
  rcases x.run.run asked with ⟨_ | a, q⟩ <;> rfl

lemma run_liftM_bind {α β : Type} (x : Except Error α) (f : α → ExceptT Error World.Asking β)
    (asked : List Question) : (liftM x >>= f).run.run asked =
    match x with
    | .ok a => (f a).run.run asked
    | .error e => (.error e, asked) := by
  cases x <;> rfl

/-- One question is asked about a step, and its answer is what the step takes in. -/
lemma run_stepInput : (stepInput w.backend w.vaults s out).run.run asked =
    ((w.ask asked out s).2, asked ++ (w.ask asked out s).1) := by
  cases s with
  | wrap v => rfl
  | unwrap v => rfl
  | swap a b p =>
      simp only [stepInput, World.ask, run_liftM_bind]
      cases SwapPath.ofSwap a b p .exactOutput with
      | error e => rw [List.append_nil]
      | ok path =>
        simp only [run_bind]
        have hcall : (w.backend.execute
            (Plan.ofCommands [QuotePlan.unbounded .exactOutput path out]).quoteCall).run.run asked =
            (w.execute asked (World.swapCall path out),
              asked ++ [.execute (World.swapCall path out)]) := rfl
        rw [hcall]
        rcases w.execute asked (World.swapCall path out) with e | _ | ⟨raw, rest⟩
        · rfl
        · rfl
        · simp only [List.head?_cons, run_liftM_bind, QuotePlan.decodeSwap]
          change _ = (World.firstAmount (raw :: rest), _)
          rw [World.firstAmount]
          cases QuotePlan.swapOutput.decode raw <;> rfl

/-! ### All steps -/

/-- Steps that have all been answered, the last one first: each was asked about for the amount that
the step behind it takes in, and the last for `out`. -/
structure Answered (w : World) (asked : List Question) (out : Amount) (steps : List Step)
    (questions : List Question) (quoted : StepAmounts) : Prop where
  length_questions : questions.length = steps.length
  length_amountsIn : quoted.amountsIn.length = steps.length
  length_amountsOut : quoted.amountsOut.length = steps.length
  last : ∀ i, i + 1 = steps.length → quoted.amountsOut[i]? = some out
  linked : ∀ i, i + 1 < steps.length → quoted.amountsOut[i]? = quoted.amountsIn[i + 1]?
  answered : ∀ i s needed, steps[i]? = some s → quoted.amountsOut[i]? = some needed →
    ∃ question input, questions[steps.length - 1 - i]? = some question ∧
      quoted.amountsIn[i]? = some input ∧
      w.ask (asked ++ questions.take (steps.length - 1 - i)) needed s = ([question], .ok input)

/-- The amount that the first of some steps takes in, which the step before them has to put out. -/
def needed (out : Amount) (quoted : StepAmounts) : Amount := quoted.amountsIn.head?.getD out

/-- What asking about steps comes to: all are answered, or one is refused behind which all are. -/
inductive Walked (w : World) (asked : List Question) (out : Amount) :
    List Step → List Question → Except Error StepAmounts → Prop
  | answered {steps : List Step} {questions : List Question} {quoted : StepAmounts}
      (h : Answered w asked out steps questions quoted) :
      Walked w asked out steps questions (.ok quoted)
  | refused (before : List Step) {after : List Step} {s : Step} {questions last : List Question}
      {quoted : StepAmounts} {e : Error} (h : Answered w asked out after questions quoted)
      (ask : w.ask (asked ++ questions) (needed out quoted) s = (last, .error e)) :
      Walked w asked out (before ++ s :: after) (questions ++ last) (.error e)

lemma exists_question {asked' : List Question} {input : Amount}
    (h : w.ask asked out s = (asked', .ok input)) : ∃ question, asked' = [question] := by
  rcases s with v | v | ⟨a, b, p⟩
  · exact ⟨_, (congrArg Prod.fst h).symm⟩
  · exact ⟨_, (congrArg Prod.fst h).symm⟩
  · rw [World.ask] at h
    cases hpath : SwapPath.ofSwap a b p .exactOutput with
    | error e =>
        rw [hpath] at h
        cases congrArg Prod.snd h
    | ok path =>
        rw [hpath] at h
        exact ⟨_, (congrArg Prod.fst h).symm⟩

lemma answered_nil : Answered w asked out [] [] ⟨[], []⟩ := by
  constructor <;> simp

/-- One step more, in front of those that have been answered. -/
lemma Answered.cons {questions : List Question} {quoted : StepAmounts} {question : Question}
    {input : Amount} (h : Answered w asked out steps questions quoted)
    (hask : w.ask (asked ++ questions) (needed out quoted) s = ([question], .ok input)) :
    Answered w asked out (s :: steps) (questions ++ [question])
      ⟨input :: quoted.amountsIn, needed out quoted :: quoted.amountsOut⟩ := by
  obtain ⟨hquestions, hins, houts, hlast, hlinked, hanswered⟩ := h
  refine ⟨by simp [hquestions], by simp [hins], by simp [houts], ?_, ?_, ?_⟩
  · rintro (_ | i) hi
    · have hnil : quoted.amountsIn = [] :=
        List.eq_nil_of_length_eq_zero (hins.trans (Nat.succ.inj hi).symm)
      simp [needed, hnil]
    · exact hlast i (Nat.succ.inj hi)
  · rintro (_ | i) hi
    · rcases hcons : quoted.amountsIn with _ | ⟨a, ins⟩
      · simp [hcons] at hins
        simp [← hins] at hi
      · simp [needed, hcons]
    · exact hlinked i (Nat.lt_of_succ_lt_succ hi)
  · rintro (_ | i) s' needed' hs hneeded
    · obtain rfl := Option.some.inj hs
      obtain rfl := Option.some.inj hneeded
      refine ⟨question, input, ?_, rfl, ?_⟩
      · simp [← hquestions]
      · simpa [← hquestions] using hask
    · obtain ⟨question', input', hquestion, hinput, hask'⟩ := hanswered i s' needed' hs hneeded
      have hi : i < steps.length := Nat.lt_of_succ_lt_succ (List.getElem?_eq_some_iff.mp hs).1
      have hplace : (s :: steps).length - 1 - (i + 1) = steps.length - 1 - i := by
        rw [List.length_cons]
        omega
      rw [hplace]
      refine ⟨question', input', ?_, hinput, ?_⟩
      · rw [List.getElem?_append_left (by omega), hquestion]
      · rw [List.take_append_of_le_length (by omega), hask']

lemma run_chain_cons : (chain w.backend w.vaults out (s :: steps)).run.run asked =
    match (chain w.backend w.vaults out steps).run.run asked with
    | (.ok (amounts, next), asked) =>
      match w.ask asked next s with
      | (questions, .ok input) => (.ok ((input, next) :: amounts, input), asked ++ questions)
      | (questions, .error e) => (.error e, asked ++ questions)
    | (.error e, asked) => (.error e, asked) := by
  rw [chain, run_bind]
  rcases (chain w.backend w.vaults out steps).run.run asked with ⟨_ | ⟨amounts, next⟩, asked'⟩
  · rfl
  · simp only [run_bind, run_stepInput]
    rcases w.ask asked' next s with ⟨questions, _ | input⟩ <;> rfl

/-- The run over some steps is that over the later ones, and then a question about the first. -/
lemma run_chain (w : World) (asked : List Question) (out : Amount) (steps : List Step) :
    (∃ amounts next questions, (chain w.backend w.vaults out steps).run.run asked =
        (.ok (amounts, next), asked ++ questions) ∧
      next = needed out (.ofPairs amounts) ∧
      Answered w asked out steps questions (.ofPairs amounts)) ∨
    ∃ e questions, (chain w.backend w.vaults out steps).run.run asked =
        (.error e, asked ++ questions) ∧ Walked w asked out steps questions (.error e) := by
  induction steps with
  | nil => exact .inl ⟨[], out, [], by rw [List.append_nil]; rfl, rfl, answered_nil⟩
  | cons s steps ih =>
      rw [run_chain_cons]
      obtain ⟨amounts, next, questions, hrun, rfl, hanswered⟩ | ⟨e, questions, hrun, hwalked⟩ := ih
      · rw [hrun]
        rcases hask : w.ask (asked ++ questions) (needed out (.ofPairs amounts)) s with
          ⟨last, e | input⟩
        · exact .inr ⟨e, questions ++ last, by simp only [hask, List.append_assoc],
            .refused [] hanswered hask⟩
        · obtain ⟨question, rfl⟩ := exists_question hask
          exact .inl ⟨(input, needed out (.ofPairs amounts)) :: amounts, input,
            questions ++ [question], by simp only [hask, List.append_assoc], rfl,
            hanswered.cons hask⟩
      · rw [hrun]
        refine .inr ⟨e, questions, rfl, ?_⟩
        cases hwalked with
        | refused before h hask => exact .refused (s :: before) h hask

end Quoter

/-! ### Routes -/

namespace World

variable {w : World}

/-- What the step amounts of a route come to after `asked`, and all that has been asked then. -/
def stepAmounts (w : World) (asked : List Question) (r : BoostedRoute) (out : Amount) :
    Except Error StepAmounts × List Question :=
  (Quoter.stepAmounts w.backend w.vaults r out).run.run asked

/-- The same for a batch. -/
def stepAmountsBatch (w : World) (asked : List Question) (rs : List (BoostedRoute × Amount)) :
    List (Option StepAmounts) × List Question :=
  (Quoter.stepAmountsBatch w.backend w.vaults rs).run asked

/-- Answers that hang on nothing but the question. -/
def Memoryless (w : World) : Prop :=
  ∀ asked asked', w.execute asked = w.execute asked' ∧ w.preview asked = w.preview asked'

lemma stepAmounts_eq (asked : List Question) (r : BoostedRoute) (out : Amount) :
    w.stepAmounts asked r out =
      (((Quoter.chain w.backend w.vaults out r.steps).run.run asked).1.map fun a => .ofPairs a.1,
        ((Quoter.chain w.backend w.vaults out r.steps).run.run asked).2) := by
  rw [stepAmounts, Quoter.stepAmounts, Quoter.run_bind]
  rcases (Quoter.chain w.backend w.vaults out r.steps).run.run asked with ⟨_ | ⟨_, _⟩, _⟩ <;> rfl

/-- Without memory it does not matter what has been asked before. -/
lemma Memoryless.ask (h : w.Memoryless) (asked asked' : List Question) (out : Amount) (s : Step) :
    w.ask asked out s = w.ask asked' out s := by
  obtain ⟨hexecute, hpreview⟩ := h asked asked'
  cases s <;> simp only [World.ask, hexecute, hpreview]

lemma Memoryless.stepAmounts (h : w.Memoryless) (asked asked' : List Question) (r : BoostedRoute)
    (out : Amount) : (w.stepAmounts asked r out).1 = (w.stepAmounts asked' r out).1 := by
  have hchain : ∀ steps, ((Quoter.chain w.backend w.vaults out steps).run.run asked).1 =
      ((Quoter.chain w.backend w.vaults out steps).run.run asked').1 := by
    intro steps
    induction steps with
    | nil => rfl
    | cons s steps ih =>
        simp only [Quoter.run_chain_cons]
        generalize (Quoter.chain w.backend w.vaults out steps).run.run asked = run at ih ⊢
        generalize (Quoter.chain w.backend w.vaults out steps).run.run asked' = run' at ih ⊢
        obtain ⟨answer, log⟩ := run
        obtain ⟨answer', log'⟩ := run'
        obtain rfl : answer = answer' := ih
        rcases answer with e | ⟨amounts, next⟩
        · rfl
        · simp only [h.ask log log' next s]
          rcases w.ask log' next s with ⟨questions, _ | input⟩ <;> rfl
  rw [stepAmounts_eq, stepAmounts_eq]
  exact congrArg (Except.map _) (hchain r.steps)

end World

namespace World.Sample

open Path.Sample (crossing)

/-- Every swap costs a thousand, and every vault takes one more than it gives. -/
def world : World where
  execute _ _ := .ok [QuotePlan.swapOutput.encode (1000, [], 0)]
  executeBatch _ _ := .error .multicallFailed
  preview _ _ _ amount := .ok (amount + 1)

/-- The same, but no vault pays out. -/
def stuck : World where
  execute := world.execute
  executeBatch := world.executeBatch
  preview _ method vault amount :=
    if method = .withdraw then .error (.previewFailed "previewWithdraw" vault) else .ok (amount + 1)

def quoted : StepAmounts where
  amountsIn := [1001, 1000, 1001, 1000, 51]
  amountsOut := [1000, 1001, 1000, 51, 50]

/-- After the redemption is refused, the two steps before it are not asked about. -/
example : (stuck.stepAmounts [] crossing 50).1.toOption = none ∧
    (stuck.stepAmounts [] crossing 50).2.length = 3 := by decide +kernel

end World.Sample

end SwapPlan
