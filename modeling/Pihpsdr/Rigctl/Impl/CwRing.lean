import Pihpsdr.Lib.Ring

/-!
The ring buffer of `rigctl.c` for CW text. `rigctl_queue_cw_char` and `rigctl_purge_cw` run in the
main loop, one after the other, `rigctl_cw_thread` runs beside them; every access of one of them to
an index that the other one writes is a step of its own. A character is represented by its number in
the order of queueing.
-/

namespace Rigctl

def cwBufSize : Nat :=
  512

-- where the main loop is
inductive CwMain where
  | idle
  -- `rigctl_purge_cw` has read `cw_buf_out`
  | purging (out : Nat)
  -- `rigctl_queue_cw_char` has found room for a character
  | room (c : Nat)
  -- it has stored the character, but not yet written `cw_buf_in`
  | stored (c : Nat)
  deriving DecidableEq

-- where `rigctl_cw_thread` is
inductive CwPhase where
  | top
  -- the ring was not empty
  | taking
  -- the character is read, `cw_buf_out` not yet written
  | took (c : Nat)
  -- to drain the ring it has read `cw_buf_in`, with `pending` characters to be sent then
  | draining (inp : Nat) (pending : Nat)
  deriving DecidableEq

/--
The ring and the two threads. `queued` counts the characters, `sent` lists those that the thread has
taken to send, and `pending` those it still has to: queued, and since then not purged or drained.
-/
structure CwRing where
  buf : Nat → Nat
  inp : Nat
  out : Nat
  main : CwMain
  phase : CwPhase
  queued : Nat
  sent : List Nat
  pending : List Nat

inductive CwStep where
  | purgeRead
  | purgeWrite
  | queueRead
  | queueStore
  | queueWrite
  | check
  | take
  | advance
  | drainRead
  | drainWrite
  deriving DecidableEq

namespace CwRing

def purgeRead (s : CwRing) : CwRing :=
  match s.main with
  | .idle => { s with main := .purging s.out }
  | _ => s

def purgeWrite (s : CwRing) : CwRing :=
  match s.main with
  | .purging out => { s with inp := out, main := .idle, pending := [] }
  | _ => s

-- only the main loop writes `cw_buf_in`, so its own accesses to it need no steps
def queueRead (s : CwRing) : CwRing :=
  match s.main with
  | .idle =>
    if Ring.next cwBufSize s.inp ≠ s.out then
      { s with main := .room s.queued, queued := s.queued + 1 }
    else
      { s with queued := s.queued + 1 }
  | _ => s

def queueStore (s : CwRing) : CwRing :=
  match s.main with
  | .room c => { s with buf := fun i => if i = s.inp then c else s.buf i, main := .stored c }
  | _ => s

def queueWrite (s : CwRing) : CwRing :=
  match s.main with
  | .stored c =>
    { s with inp := Ring.next cwBufSize s.inp, main := .idle, pending := s.pending ++ [c] }
  | _ => s

def check (s : CwRing) : CwRing :=
  match s.phase with
  | .top => if s.inp = s.out then s else { s with phase := .taking }
  | _ => s

def take (s : CwRing) : CwRing :=
  match s.phase with
  | .taking =>
    { s with
      phase := .took (s.buf s.out)
      sent := s.sent ++ [s.buf s.out]
      pending := s.pending.tail
    }
  | _ => s

def advance (s : CwRing) : CwRing :=
  match s.phase with
  | .took _ => { s with out := Ring.next cwBufSize s.out, phase := .top }
  | _ => s

-- both where the mode is not CW and in the loop that ends a transmission when a key is hit
def drainRead (s : CwRing) : CwRing :=
  match s.phase with
  | .top => { s with phase := .draining s.inp s.pending.length }
  | .taking => { s with phase := .draining s.inp s.pending.length }
  | _ => s

def drainWrite (s : CwRing) : CwRing :=
  match s.phase with
  | .draining inp pending =>
    { s with out := inp, phase := .top, pending := s.pending.drop pending }
  | _ => s

def step (s : CwRing) : CwStep → CwRing
  | .purgeRead => s.purgeRead
  | .purgeWrite => s.purgeWrite
  | .queueRead => s.queueRead
  | .queueStore => s.queueStore
  | .queueWrite => s.queueWrite
  | .check => s.check
  | .take => s.take
  | .advance => s.advance
  | .drainRead => s.drainRead
  | .drainWrite => s.drainWrite

-- `rigctl_start_cw_thread`
def start : CwRing where
  buf := fun _ => 0
  inp := 0
  out := 0
  main := .idle
  phase := .top
  queued := 0
  sent := []
  pending := []

end CwRing

end Rigctl
