import Pihpsdr.Rigctl.Impl.Extended
import Pihpsdr.Radio.Startup

/-!
The switches of `parse_cmd` and `parse_extended_cmd` over the letters of a command. The commands of
the TS-2000 that are known but not implemented are answered like the unknown ones.
-/

namespace Rigctl

-- the character of a byte of the buffer
def letter (c : CChar) : Char :=
  Char.ofNat c.toNat

-- the labels of a case in the outer and in the inner switch
structure CatEntry where
  outer : Char
  inner : Char
  case : CatCase

def findCase (entries : List CatEntry) (a b : Char) : Option CatCase :=
  (entries.find? fun e => decide (e.outer = a ∧ e.inner = b)).map (·.case)

-- the first and the second letter of a command
def standardCmds (lib : CLibrary) : List CatEntry := [
  ⟨'#', 'S', catShutdown⟩,
  ⟨'A', 'G', catAg lib⟩,
  ⟨'A', 'I', catAi⟩,
  ⟨'B', 'D', catBd⟩,
  ⟨'B', 'U', catBu⟩,
  ⟨'C', 'N', catCn⟩,
  ⟨'C', 'T', catCt⟩,
  ⟨'D', 'N', catDn⟩,
  ⟨'F', 'A', catFa⟩,
  ⟨'F', 'B', catFb⟩,
  ⟨'F', 'R', catFr⟩,
  ⟨'F', 'T', catFt⟩,
  ⟨'F', 'W', catFw⟩,
  ⟨'G', 'T', catGt⟩,
  ⟨'I', 'D', catId⟩,
  ⟨'I', 'F', catIf⟩,
  ⟨'K', 'S', catKs⟩,
  ⟨'K', 'Y', catKy⟩,
  ⟨'L', 'K', catLk⟩,
  ⟨'M', 'D', catMd⟩,
  ⟨'M', 'G', catMg⟩,
  ⟨'N', 'B', catNb⟩,
  ⟨'N', 'R', catNr⟩,
  ⟨'N', 'T', catNt⟩,
  ⟨'P', 'A', catPa⟩,
  ⟨'P', 'C', catPc⟩,
  ⟨'P', 'L', catPl⟩,
  ⟨'P', 'S', catPs⟩,
  ⟨'R', 'A', catRa⟩,
  ⟨'R', 'C', catRc⟩,
  ⟨'R', 'D', catRd⟩,
  ⟨'R', 'T', catRt⟩,
  ⟨'R', 'U', catRu⟩,
  ⟨'R', 'X', catRx⟩,
  ⟨'S', 'A', catSa⟩,
  ⟨'S', 'D', catSd⟩,
  ⟨'S', 'H', catSh⟩,
  ⟨'S', 'L', catSl⟩,
  ⟨'S', 'M', catSm⟩,
  ⟨'S', 'Q', catSq⟩,
  ⟨'T', 'X', catTx⟩,
  ⟨'T', 'Y', catTy⟩,
  ⟨'U', 'P', catUp⟩,
  ⟨'V', 'G', catVg lib⟩,
  ⟨'V', 'X', catVx⟩,
  ⟨'X', 'T', catXt⟩
]

-- the third and the fourth letter of a command with `ZZ`
def extendedCmds (lib : CLibrary) : List CatEntry := [
  ⟨'A', 'C', catZzac⟩,
  ⟨'A', 'D', catZzad⟩,
  ⟨'A', 'E', catZzae⟩,
  ⟨'A', 'F', catZzaf⟩,
  ⟨'A', 'G', catZzag lib⟩,
  ⟨'A', 'I', catZzai⟩,
  ⟨'A', 'R', catZzar⟩,
  ⟨'A', 'S', catZzas⟩,
  ⟨'A', 'U', catZzau⟩,
  ⟨'B', 'A', catZzba⟩,
  ⟨'B', 'B', catZzbb⟩,
  ⟨'B', 'D', catZzbd⟩,
  ⟨'B', 'E', catZzbe⟩,
  ⟨'B', 'F', catZzbf⟩,
  ⟨'B', 'M', catZzbm⟩,
  ⟨'B', 'P', catZzbp⟩,
  ⟨'B', 'S', catZzbs⟩,
  ⟨'B', 'T', catZzbt⟩,
  ⟨'B', 'U', catZzbu⟩,
  ⟨'B', 'Y', catZzby⟩,
  ⟨'C', 'N', catZzcn⟩,
  ⟨'C', 'O', catZzco⟩,
  ⟨'F', 'A', catZzfa⟩,
  ⟨'F', 'B', catZzfb⟩,
  ⟨'F', 'H', catZzfh⟩,
  ⟨'F', 'L', catZzfl⟩,
  ⟨'G', 'T', catZzgt⟩,
  ⟨'G', 'U', catZzgu⟩,
  ⟨'L', 'A', catZzla lib⟩,
  ⟨'L', 'C', catZzlc lib⟩,
  ⟨'L', 'I', catZzli⟩,
  ⟨'M', 'A', catZzma⟩,
  ⟨'M', 'B', catZzmb⟩,
  ⟨'M', 'D', catZzmd⟩,
  ⟨'M', 'E', catZzme⟩,
  ⟨'M', 'G', catZzmg⟩,
  ⟨'S', 'A', catZzsa⟩,
  ⟨'S', 'B', catZzsb⟩,
  ⟨'S', 'G', catZzsg⟩,
  ⟨'S', 'H', catZzsh⟩,
  ⟨'T', 'X', catZztx⟩,
  ⟨'U', 'U', catZzuu⟩,
  ⟨'V', 'S', catZzvs⟩,
  ⟨'X', 'V', catZzxv⟩,
  ⟨'Y', 'R', catZzyr⟩,
  ⟨'Z', 'A', catZzza⟩,
  ⟨'Z', 'D', catZzzd⟩,
  ⟨'Z', 'E', catZzze⟩,
  ⟨'Z', 'P', catZzzp⟩,
  ⟨'Z', 'S', catZzzs⟩,
  ⟨'Z', 'U', catZzzu⟩
]

-- the case for the characters at the start of a command
def catCase (lib : CLibrary) (ch : Nat → Char) : Option CatCase :=
  if ch 0 = 'Z' ∧ ch 1 = 'Z' then
    findCase (extendedCmds lib) (ch 2) (ch 3)
  else
    findCase (standardCmds lib) (ch 0) (ch 1)

def parseCmd (lib : CLibrary) (command : CommandBuffer) (s : Rig) : Outcome :=
  match catCase lib fun i => letter (command.byte i) with
  | some c => c.exec command s
  | none => s.unimplemented

end Rigctl

/-!
The state behind the CAT commands after the first start of a radio with two receivers and a
transmitter.
-/

namespace Rigctl

-- a C library for commands that do not use it
def zeroLibrary : CLibrary where
  log10 := fun _ => 0
  pow10 := fun _ => 0
  atof := fun _ => 0

def startTransmitter : TransmitterState where
  antenna := 0
  deviation := 2500
  ctcssEnabled := 0
  ctcss := 0
  useRxFilter := 0

def startRadio : RadioState :=
  { initialState with
    config := { initialConfig with filters := filterTable }
    transmitter := some startTransmitter }

def andromedaVfoSpeedup : List Int :=
  [0, 1, 2, 3, 4, 5, 6, 7, 8, 9, 11, 12, 14, 17, 19, 22, 25, 29, 33, 38, 43, 48, 54, 61, 69, 77, 85,
    95, 105, 116, 128, 4]

-- in tenths of a Hz
def ctcssTones : List Int :=
  [670, 719, 744, 770, 797, 825, 854, 885, 915, 948, 974, 1000, 1035, 1072, 1109, 1148, 1188, 1230,
    1273, 1318, 1365, 1413, 1462, 1514, 1567, 1622, 1679, 1738, 1799, 1862, 1928, 2035, 2107, 2181,
    2257, 2336, 2418, 2503]

def startRig : Rig where
  radio := startRadio
  rx := fun _ =>
    { volume := -20
      muteRadio := 0
      nb := 0
      nr := 0
      anf := 0
      squelch := 0
      squelchEnable := false
      rxlvl := -120 }
  tx :=
    { micGain := 0
      drive := 50
      compressorLevel := 0
      puresignal := 0
      twotone := 0
      tune := 0 }
  speedup := fun i => andromedaVfoSpeedup.getD i.toNat 0
  ctcssFrequencies := fun i => ctcssTones.getD i.toNat 0 / 10
  client := { autoReporting := 0, andromedaType := 0, lastV := 0 }
  cwKeyerSpeed := 16
  cwKeyerHangTime := 500
  cwBreakin := 1
  voxThreshold := 1 / 100
  voxEnabled := 0
  locked := 0
  mox := 0
  transmitting := false
  driveDigiMax := 100
  cwBuf := fun _ => 0
  cwBufIn := 0
  cwBufOut := 0
  calls := []

end Rigctl
