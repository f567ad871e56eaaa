import Pihpsdr.ClientServer.Impl.Wire
import Mathlib.Logic.Function.Basic

/-!
The memory slots of `store.h` and their message: `send_memory_data` of the server and the case
`INFO_MEMORY` of the client.
-/

namespace ClientServer

abbrev numMemories : Nat :=
  10

structure Mem where
  satMode : Int
  split : Int
  duplex : Int
  frequency : Int
  ctunFrequency : Int
  ctun : Int
  mode : Int
  filter : Int
  deviation : Int
  bd : Int
  altFrequency : Int
  altCtunFrequency : Int
  altCtun : Int
  altMode : Int
  altFilter : Int
  altDeviation : Int
  altBd : Int
  ctcssEnabled : Int
  ctcss : Int
  deriving DecidableEq

structure MemoryData where
  frequency : BitVec 64
  ctunFrequency : BitVec 64
  altFrequency : BitVec 64
  altCtunFrequency : BitVec 64
  deviation : BitVec 16
  altDeviation : BitVec 16
  index : BitVec 8
  satMode : BitVec 8
  ctun : BitVec 8
  mode : BitVec 8
  filter : BitVec 8
  bd : BitVec 8
  altCtun : BitVec 8
  altMode : BitVec 8
  altFilter : BitVec 8
  altBd : BitVec 8
  ctcssEnabled : BitVec 8
  ctcss : BitVec 8

def sendMemoryData (mem : Fin numMemories → Mem) (index : Fin numMemories) : MemoryData where
  index := to8 index
  satMode := to8 (mem index).satMode
  ctun := to8 (mem index).ctun
  mode := to8 (mem index).mode
  filter := to8 (mem index).filter
  bd := to8 (mem index).bd
  altCtun := to8 (mem index).altCtun
  altMode := to8 (mem index).altMode
  altFilter := to8 (mem index).altFilter
  altBd := to8 (mem index).altBd
  ctcssEnabled := to8 (mem index).ctcssEnabled
  ctcss := to8 (mem index).ctcss
  deviation := to16 (mem index).deviation
  altDeviation := to16 (mem index).altDeviation
  frequency := to64 (mem index).frequency
  ctunFrequency := to64 (mem index).ctunFrequency
  altFrequency := to64 (mem index).frequency
  altCtunFrequency := to64 (mem index).ctunFrequency

-- the fields that the message does not have keep their values
def MemoryData.store (data : MemoryData) (slot : Mem) : Mem :=
  { slot with
    satMode := from8 data.satMode
    ctun := from8 data.ctun
    mode := from8 data.mode
    filter := from8 data.filter
    bd := from8 data.bd
    altCtun := from8 data.altCtun
    altMode := from8 data.altMode
    altFilter := from8 data.altFilter
    altBd := from8 data.altBd
    ctcssEnabled := from8 data.ctcssEnabled
    ctcss := from8 data.ctcss
    deviation := from16 data.deviation
    altDeviation := from16 data.altDeviation
    frequency := from64 data.frequency
    ctunFrequency := from64 data.ctunFrequency
    altFrequency := from64 data.altFrequency
    altCtunFrequency := from64 data.altCtunFrequency }

-- the index is not checked, `none` is a write outside of the array
def infoMemory (mem : Fin numMemories → Mem) (data : MemoryData)
    : Option (Fin numMemories → Mem) :=
  if h : data.index.toNat < numMemories then
    some (Function.update mem ⟨data.index.toNat, h⟩ (data.store (mem ⟨data.index.toNat, h⟩)))
  else
    none

structure Mem.InWireRange (slot : Mem) : Prop where
  satMode : Wire.u8.InRange slot.satMode
  ctun : Wire.u8.InRange slot.ctun
  mode : Wire.u8.InRange slot.mode
  filter : Wire.u8.InRange slot.filter
  bd : Wire.u8.InRange slot.bd
  altCtun : Wire.u8.InRange slot.altCtun
  altMode : Wire.u8.InRange slot.altMode
  altFilter : Wire.u8.InRange slot.altFilter
  altBd : Wire.u8.InRange slot.altBd
  ctcssEnabled : Wire.u8.InRange slot.ctcssEnabled
  ctcss : Wire.u8.InRange slot.ctcss
  deviation : Wire.u16.InRange slot.deviation
  altDeviation : Wire.u16.InRange slot.altDeviation
  frequency : Wire.u64.InRange slot.frequency
  ctunFrequency : Wire.u64.InRange slot.ctunFrequency
  altFrequency : Wire.u64.InRange slot.altFrequency
  altCtunFrequency : Wire.u64.InRange slot.altCtunFrequency

end ClientServer
