import Pihpsdr.Radio.State

/-!
A radio for frequencies up to 61 MHz, with two receivers, after its first start: the table of the
bands and the defaults of `vfo_restore_state`.
-/

structure BandRow where
  title : List Char
  frequencyMin : Int
  frequencyMax : Int
  entries : Int
  currentEntry : Int

-- the bands without those for transverters, with the sizes of their stacks
def bandRows : List BandRow := [
  ⟨['1', '3', '6', 'k', 'H', 'z'], 135700, 137800, 2, 0⟩,
  ⟨['4', '7', '2', 'k', 'H', 'z'], 472000, 479000, 2, 0⟩,
  ⟨['1', '6', '0'], 1800000, 2000000, 3, 1⟩,
  ⟨['8', '0'], 3500000, 4000000, 3, 1⟩,
  ⟨['6', '0'], 5250000, 5450000, 5, 1⟩,
  ⟨['4', '0'], 7000000, 7300000, 3, 1⟩,
  ⟨['3', '0'], 10100000, 10150000, 3, 1⟩,
  ⟨['2', '0'], 14000000, 14350000, 4, 1⟩,
  ⟨['1', '7'], 18068000, 18168000, 3, 1⟩,
  ⟨['1', '5'], 21000000, 21450000, 3, 1⟩,
  ⟨['1', '2'], 24890000, 24990000, 3, 1⟩,
  ⟨['1', '0'], 28000000, 29700000, 3, 1⟩,
  ⟨['6'], 50000000, 54000000, 3, 1⟩,
  ⟨['4'], 70000000, 70500000, 3, 1⟩,
  ⟨['1', '4', '4'], 144000000, 148000000, 6, 1⟩,
  ⟨['2', '2', '0'], 220000000, 224980000, 3, 1⟩,
  ⟨['4', '3', '0'], 420000000, 450000000, 3, 1⟩,
  ⟨['9', '0', '2'], 902000000, 928000000, 3, 1⟩,
  ⟨['1', '2', '4', '0'], 1240000000, 1300000000, 3, 1⟩,
  ⟨['2', '3', '0', '0'], 2300000000, 2450000000, 3, 1⟩,
  ⟨['3', '4', '0', '0'], 3400000000, 3410000000, 3, 1⟩,
  ⟨['A', 'I', 'R'], 108000000, 137000000, 6, 1⟩,
  ⟨['W', 'W', 'V'], 0, 0, 6, 1⟩,
  ⟨['G', 'E', 'N'], 0, 0, 3, 1⟩
]

def CString.ofChars (cs : List Char) : CString 16 :=
  let chars := cs.map (fun ch => BitVec.ofNat 8 ch.toNat)
  if h : chars.length < 16 ∧ 0 ∉ chars then ⟨chars, h.1, h.2⟩
  else ⟨[], CString.length_nil_lt_16, CString.no_nul_nil⟩

-- the entries of a stack may be anything, here they are the lower edge of the band
def initialBand (row : BandRow) : BandState where
  title := CString.ofChars row.title
  bandstack :=
    { entries := row.entries
      currentEntry := row.currentEntry
      entry := fun _ => ⟨row.frequencyMin, 0, 0, modeCwu, 4, 2500, 0, 0⟩ }
  rxAntenna := 0
  txAntenna := 0
  frequencyMin := row.frequencyMin
  frequencyMax := row.frequencyMax
  frequencyLo := 0
  errorLo := 0
  rfGain := 0
  agcGain := 80
  preamp := 0
  dither := 0
  attenuation := 0
  alexAttenuation := 0
  panlow := -140
  panhigh := -40
  panstep := 20

def initialBands (b : BandIndex) : BandState :=
  initialBand (bandRows.getD b ⟨[], 0, 0, 3, 0⟩)

def initialVfo : VfoState where
  band := 7
  bandstack := 0
  frequency := 14010000
  ctun := 0
  ctunFrequency := 0
  ritEnabled := 0
  ritStep := 10
  rit := 0
  xitEnabled := 0
  xit := 0
  lo := 0
  offset := 0
  mode := modeCwu
  step := 100
  filter := 4
  deviation := 2500
  cwAudioPeakFilter := 0

def initialConfig : RadioConfig where
  protocol := .new
  filterBoard := .alex
  haveRxAtt := true
  haveRxGain := false
  frequencyMin := 0
  frequencyMax := 61440000
  receivers := 2
  activeReceiver := 0
  rxAdc := fun _ => 0
  sampleRate := fun _ => 192000
  locked := false
  cwKeyerSidetoneFrequency := 600
  filters := fun _ _ => ⟨-125, 125⟩

def initialMem : ClientServer.Mem where
  satMode := satModeNone
  split := 0
  duplex := 0
  frequency := 14010000
  ctunFrequency := 0
  ctun := 0
  mode := modeCwu
  filter := 4
  deviation := 2500
  bd := 7
  altFrequency := 14010000
  altCtunFrequency := 0
  altCtun := 0
  altMode := modeCwu
  altFilter := 4
  altDeviation := 2500
  altBd := 7
  ctcssEnabled := 0
  ctcss := 0

def initialReceiver : ReceiverState where
  filterLow := 475
  filterHigh := 725
  deviation := 2500
  agc := 3
  agcGain := 80
  panadapterLow := -140
  panadapterHigh := -40
  panadapterStep := 20
  multiNotchEnable := fun _ => 0
  multiNotchCenter := fun _ => 0

def initialState : RadioState where
  config := initialConfig
  vfo := fun _ => initialVfo
  bands := initialBands
  mem := fun _ => initialMem
  satMode := satModeNone
  split := 0
  adc := fun _ => { int := fun _ => 0, double := fun _ => 0 }
  receiver := fun _ => initialReceiver
  transmitter := none
  profile := fun _ => ⟨4, 0, 10, 100, 3, 0⟩
