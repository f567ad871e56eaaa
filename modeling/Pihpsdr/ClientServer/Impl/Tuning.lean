import Pihpsdr.ClientServer.Impl.Wire
import Mathlib.Algebra.BigOperators.Group.List.Basic
import Mathlib.Algebra.Group.Int.Defs
import Mathlib.Logic.Function.Basic
import Pihpsdr.Lib.Indices

/-!
Tuning from the client: the tuning steps and movements that `update_vfo_step` and `update_vfo_move`
collect, the timer routine `check_vfo` that sends them, and the cases `CMD_STEP` and `CMD_MOVE` of
the server.
-/

namespace ClientServer

-- a call of `vfo_id_step` or `vfo_id_move`
inductive Tuning where
  | step (id : Nat) (steps : Int)
  | move (id : Nat) (hz : Int) (round : Nat)

namespace Tuning

def steps (v : Fin 2) : Tuning → Int
  | step id n => if id = v then n else 0
  | move _ _ _ => 0

def hz (v : Fin 2) : Tuning → Int
  | step _ _ => 0
  | move id hz _ => if id = v then hz else 0

def total (amount : Tuning → Int) (calls : List Tuning) : Int :=
  (calls.map amount).sum

end Tuning

inductive TuningMessage where
  | ping
  | step (b1 : BitVec 8) (s1 : BitVec 16)
  | move (b1 b2 : BitVec 8) (u64 : BitVec 64)

def sendVfoStep (v : Fin 2) (steps : BitVec 32) : TuningMessage :=
  .step (to8 v) (to16 steps.toInt)

def sendVfoMove (id : Fin 2) (hz : BitVec 64) (round : BitVec 32) : TuningMessage :=
  .move (to8 id) (to8 round.toInt) (to64 hz.toInt)

def TuningMessage.remoteCommand : TuningMessage → Option Tuning
  | ping => none
  | step b1 s1 => some (.step b1.toNat (from16 s1))
  | move b1 b2 u64 => some (.move b1.toNat (from64 u64) b2.toNat)

/--
The collected amounts of the client, the messages that the server has not processed yet and the
calls made on both sides: on the client those that ask for a change, on the server those that
perform it.
-/
structure TuningLink where
  count : Nat
  accumulatedSteps : Fin 2 → BitVec 32
  accumulatedHz : Fin 2 → BitVec 64
  accumulatedRound : Fin 2 → BitVec 32
  inFlight : List TuningMessage
  applied : List Tuning
  requested : List Tuning

namespace TuningLink

def initial : TuningLink where
  count := 0
  accumulatedSteps _ := 0
  accumulatedHz _ := 0
  accumulatedRound _ := 0
  inFlight := []
  applied := []
  requested := []

def updateVfoMove (s : TuningLink) (v : Fin 2) (hz : BitVec 64) (round : BitVec 32) : TuningLink :=
  { s with
    accumulatedHz := Function.update s.accumulatedHz v (s.accumulatedHz v + hz)
    accumulatedRound := Function.update s.accumulatedRound v round
    requested := s.requested ++ [.move v hz.toInt round.toNat] }

def updateVfoStep (s : TuningLink) (v : Fin 2) (steps : BitVec 32) : TuningLink :=
  { s with
    accumulatedSteps := Function.update s.accumulatedSteps v (s.accumulatedSteps v + steps)
    requested := s.requested ++ [.step v steps.toInt] }

def flushSteps (s : TuningLink) (v : Fin 2) : TuningLink :=
  if s.accumulatedSteps v ≠ 0 then
    { s with
      accumulatedSteps := Function.update s.accumulatedSteps v 0
      inFlight := s.inFlight ++ [sendVfoStep v (s.accumulatedSteps v)] }
  else
    s

def flushHz (s : TuningLink) (v : Fin 2) : TuningLink :=
  if s.accumulatedHz v ≠ 0 ∨ s.accumulatedRound v ≠ 0 then
    { s with
      accumulatedHz := Function.update s.accumulatedHz v 0
      accumulatedRound := Function.update s.accumulatedRound v 0
      inFlight := s.inFlight ++ [sendVfoMove v (s.accumulatedHz v) (s.accumulatedRound v)] }
  else
    s

def ping (s : TuningLink) : TuningLink :=
  if s.count ≥ 10 then
    { s with count := 0, inFlight := s.inFlight ++ [.ping] }
  else
    { s with count := s.count + 1 }

def checkVfo (s : TuningLink) : TuningLink :=
  (((s.ping.flushSteps 0).flushHz 0).flushSteps 1).flushHz 1

-- the server processes the message in place `i` of those that are in flight
def process (s : TuningLink) (i : Nat) : TuningLink :=
  match s.inFlight[i]? with
  | none => s
  | some message =>
    { s with
      inFlight := s.inFlight.eraseIdx i
      applied := s.applied ++ message.remoteCommand.toList }

inductive Event where
  | move (v : Fin 2) (hz : BitVec 64) (round : BitVec 32)
  | step (v : Fin 2) (steps : BitVec 32)
  | timer
  | process (i : Nat)

def step (s : TuningLink) : Event → TuningLink
  | .move v hz round => s.updateVfoMove v hz round
  | .step v steps => s.updateVfoStep v steps
  | .timer => s.checkVfo
  | .process i => s.process i

-- the calls that the messages in flight lead to
def pendingCalls (s : TuningLink) : List Tuning :=
  s.inFlight.filterMap TuningMessage.remoteCommand

def steps (s : TuningLink) (v : Fin 2) : Int :=
  Tuning.total (Tuning.steps v) s.applied + Tuning.total (Tuning.steps v) s.pendingCalls
    + (s.accumulatedSteps v).toInt

def hz (s : TuningLink) (v : Fin 2) : Int :=
  Tuning.total (Tuning.hz v) s.applied + Tuning.total (Tuning.hz v) s.pendingCalls
    + (s.accumulatedHz v).toInt

structure Conserved (s : TuningLink) : Prop where
  steps : ∀ v, s.steps v = Tuning.total (Tuning.steps v) s.requested
  hz : ∀ v, s.hz v = Tuning.total (Tuning.hz v) s.requested

-- an update stays in the type of its sum, and the timer finds sums of steps that fit into 16 bits
def Fits (s : TuningLink) : Event → Prop
  | .move v hz _ => Wire.u64.InRange ((s.accumulatedHz v).toInt + hz.toInt)
  | .step v steps => Wire.u32.InRange ((s.accumulatedSteps v).toInt + steps.toInt)
  | .timer => ∀ v, Wire.u16.InRange (s.accumulatedSteps v).toInt
  | .process _ => True

end TuningLink

end ClientServer
