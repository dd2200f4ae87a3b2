import PowerDisasm.DecodeSession
import PowerDisasm.Proofs.DecodeHistory
import PowerDisasm.Proofs.FormComposition

/-! # Steps taken in a session

A step either pushes one operand, or writes the flag, or only looks, or rejects
the word and changes nothing. What it does is the same in all sessions at one
site. So any number of steps, taken one after the other with words of their own,
leave behind the operands of those that accepted and the flag written last; the
steps that rejected their words in between have no part in it. -/

namespace PowerDisasm

namespace DecodeSession

def add (session : DecodeSession) (contribution : Contribution) : DecodeSession :=
  { session with state := session.state.add contribution }

/-- A step that rejects the word leaves the session as it is, and any other adds
what it reads to the session. -/
theorem takeStep_eq (session : DecodeSession) (use : StepUse) :
    session.takeStep use =
      match use.step.evaluate session.site use.word with
      | some contribution => (true, session.add contribution)
      | none => (false, session) := by
  rcases use with ⟨step, word⟩
  -- Only steps that decide something on the way do not agree by computation.
  cases step with
  | floatingPair offset | alignedMemory =>
      simp only [takeStep, DecodeStep.evaluate, ne_eq, ite_not]
      split <;> rfl
  | special =>
      simp only [takeStep, DecodeStep.evaluate, DecodeStep.specialOperand]
      cases session.site.registers.special? (DecodeStep.specialNumber word) <;> rfl
  | unsignedFields fields =>
      simp only [takeStep, DecodeStep.evaluate, DecodeStep.unsignedOperand]
      split <;> rfl
  | only64 =>
      simp only [takeStep, DecodeStep.evaluate]
      by_cases wide : session.site.wordWidth = .w64
      · rw [if_pos wide, decide_eq_true wide]
        rfl
      · rw [if_neg wide, decide_eq_false wide]
  | _ => rfl

/-- A form takes its steps as a session does, and so does a state with a history. -/
theorem takeStep?_eq (session : DecodeSession) (use : StepUse) :
    session.state.takeStep? use.word use.step =
      if (session.takeStep use).1 then some (session.takeStep use).2.state else none := by
  rw [takeStep_eq, DecodeState.takeStep?, ← site]
  cases use.step.evaluate session.site use.word <;> rfl

theorem use_take_eq (session : DecodeSession) (use : StepUse) :
    session.state.use (.take use.step use.word) = (session.takeStep use).2.state := by
  rw [DecodeState.use, takeStep?_eq, takeStep_eq]
  cases use.step.evaluate session.site use.word <;> rfl

end DecodeSession

/-! ## What one step can do -/

namespace StepUse

variable {use : StepUse}

def Pushes (site : DecodeSite) (use : StepUse) (read : Operand) : Prop :=
  ∀ session : DecodeSession, session.site = site → session.takeStep use = (true, session.push read)

def Writes (use : StepUse) (flag : Bool) : Prop :=
  ∀ session : DecodeSession, session.takeStep use = (true, session.setCr0 flag)

inductive Outcome (session : DecodeSession) (use : StepUse) : Prop where
  | pushes (read : Operand) (isOperand : use.step.effect = .operand)
      (taken : use.Pushes session.site read)
  | rejects (isOperand : use.step.effect = .operand)
      (taken : session.takeStep use = (false, session))
  | writes (flag : Bool) (isFlag : use.step.effect = .flag) (taken : use.Writes flag)
  | checks (answer : Bool) (isGuard : use.step.effect = .guard)
      (taken : session.takeStep use = (answer, session))

theorem exists_evaluate_of_flag (isFlag : use.step.effect = .flag) :
    ∃ flag, ∀ site, use.step.evaluate site use.word = some (.setsCr0 flag) := by
  rcases use with ⟨step, word⟩
  cases step <;> cases isFlag <;> exact ⟨_, fun _ => rfl⟩

theorem outcome (session : DecodeSession) (use : StepUse) : use.Outcome session := by
  have taken := session.takeStep_eq use
  cases evaluated : use.step.evaluate session.site use.word with
  | none =>
      rw [evaluated] at taken
      cases effect : use.step.effect with
      | operand => exact .rejects effect taken
      | flag =>
          rcases exists_evaluate_of_flag effect with ⟨flag, always⟩
          rw [always] at evaluated
          cases evaluated
      | guard => exact .checks false effect taken
  | some contribution =>
      have effect := (DecodeStep.effect_of_evaluate evaluated).symm
      cases contribution with
      | operand read =>
          refine .pushes read effect ?_
          intro other sameSite
          rw [other.takeStep_eq, sameSite, evaluated]
          rfl
      | setsCr0 _ =>
          rcases exists_evaluate_of_flag effect with ⟨flag, always⟩
          refine .writes flag effect ?_
          intro other
          rw [other.takeStep_eq, always]
          rfl
      | nothing =>
          rw [evaluated] at taken
          exact .checks true effect taken

end StepUse

/-! ## Steps taken one after the other -/

namespace DecodeSession

theorem takeSteps_cons (session : DecodeSession) (use : StepUse) (rest : List StepUse) :
    session.takeSteps (use :: rest) =
      ((session.takeStep use).1 :: ((session.takeStep use).2.takeSteps rest).1,
        ((session.takeStep use).2.takeSteps rest).2) :=
  rfl

/-- The operand steps that accepted their words, in the order in which they were
taken. -/
def acceptedReads (uses : List StepUse) (answers : List Bool) : List StepUse :=
  ((uses.zip answers).filter fun taken =>
    decide (taken.1.step.effect = .operand) && taken.2).map (·.1)

def flagWrites (uses : List StepUse) : List StepUse :=
  uses.filter fun use => use.step.effect = .flag

theorem acceptedReads_cons_of_read {use : StepUse} (isOperand : use.step.effect = .operand)
    (rest : List StepUse) (answers : List Bool) :
    acceptedReads (use :: rest) (true :: answers) = use :: acceptedReads rest answers := by
  simp [acceptedReads, isOperand]

theorem acceptedReads_cons_of_not_read {use : StepUse} {accepted : Bool}
    (noRead : use.step.effect = .operand → accepted = false)
    (rest : List StepUse) (answers : List Bool) :
    acceptedReads (use :: rest) (accepted :: answers) = acceptedReads rest answers := by
  by_cases isOperand : use.step.effect = .operand
  · simp [acceptedReads, noRead isOperand]
  · simp [acceptedReads, isOperand]

theorem flagWrites_cons_of_not_write {use : StepUse} (noFlag : use.step.effect ≠ .flag)
    (rest : List StepUse) : flagWrites (use :: rest) = flagWrites rest :=
  List.filter_cons_of_neg (by simpa using noFlag)

def extend (session : DecodeSession) (operands : List Operand) (flags : List Bool) :
    DecodeSession :=
  { session with state := { session.state with
      operands := session.state.operands ++ operands
      setsCr0 := flags.getLast?.getD session.state.setsCr0 } }

theorem extend_nil (session : DecodeSession) : session.extend [] [] = session := by
  simp [extend]

theorem extend_push (session : DecodeSession) (read : Operand) (operands : List Operand)
    (flags : List Bool) :
    (session.push read).extend operands flags = session.extend (read :: operands) flags := by
  simp [extend, push]

structure Leaves (session : DecodeSession) (uses : List StepUse) (operands : List Operand)
    (flags : List Bool) : Prop where
  pushed : List.Forall₂ (StepUse.Pushes session.site)
    (acceptedReads uses (session.takeSteps uses).1) operands
  written : List.Forall₂ StepUse.Writes (flagWrites uses) flags
  final_eq : (session.takeSteps uses).2 = session.extend operands flags

namespace Leaves

variable {session : DecodeSession} {use : StepUse} {rest : List StepUse}
  {operands : List Operand} {flags : List Bool}

theorem nil (session : DecodeSession) : session.Leaves [] [] [] :=
  ⟨.nil, .nil, session.extend_nil.symm⟩

theorem push {read : Operand} (isOperand : use.step.effect = .operand)
    (taken : use.Pushes session.site read)
    (leaves : (session.push read).Leaves rest operands flags) :
    session.Leaves (use :: rest) (read :: operands) flags where
  pushed := by
    rw [takeSteps_cons, taken session rfl, acceptedReads_cons_of_read isOperand]
    exact .cons taken leaves.pushed
  written := by
    rw [flagWrites_cons_of_not_write (by simp [isOperand])]
    exact leaves.written
  final_eq := by
    rw [takeSteps_cons, taken session rfl, ← extend_push]
    exact leaves.final_eq

theorem pass {answer : Bool} (taken : session.takeStep use = (answer, session))
    (noRead : use.step.effect = .operand → answer = false) (noFlag : use.step.effect ≠ .flag)
    (leaves : session.Leaves rest operands flags) :
    session.Leaves (use :: rest) operands flags where
  pushed := by
    rw [takeSteps_cons, taken, acceptedReads_cons_of_not_read noRead]
    exact leaves.pushed
  written := by
    rw [flagWrites_cons_of_not_write noFlag]
    exact leaves.written
  final_eq := by
    rw [takeSteps_cons, taken]
    exact leaves.final_eq

end Leaves

end DecodeSession

end PowerDisasm
