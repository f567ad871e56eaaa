import Pihpsdr.NewProtocol.Lemmas.IqData
import Pihpsdr.Saturn.Impl.RxThread

/-!
However the stream of the FPGA is cut by the DMA transfers, the samples in it come to the receivers
in order and once, and no transfer leaves its buffer.
-/

namespace Saturn

open OldProtocol (Byte iqBytes sampleBytes length_iqBytes)

abbrev Sample := BitVec 24 × BitVec 24

/-! The stream: frames with the samples of all DDCs, each of them in a word of 64 bits. -/

-- the FPGA leaves 16 bits of a word alone
structure IqWord where
  sample : Sample
  pad : Byte × Byte

def IqWord.bytes (w : IqWord) : List Byte := iqBytes w.sample ++ [w.pad.1, w.pad.2]

structure Frame where
  rateWord : BitVec 32
  high : Byte × Byte × Byte
  words : Channel → List IqWord

namespace Frame

def header (f : Frame) : List Byte :=
  [f.rateWord.extractLsb' 0 8, f.rateWord.extractLsb' 8 8, f.rateWord.extractLsb' 16 8,
    f.rateWord.extractLsb' 24 8, f.high.1, f.high.2.1, f.high.2.2, 0x80]

def body (f : Frame) : List Byte :=
  ((List.finRange 10).map f.words).flatMap fun ws => ws.flatMap IqWord.bytes

def bytes (f : Frame) : List Byte := f.header ++ f.body

def samples (f : Frame) (ddc : Channel) : List Sample := (f.words ddc).map IqWord.sample

/--
The rate word tells how many samples there are of each DDC; the last DDC is not the first one of a
pair.
-/
structure Ok (f : Frame) : Prop where
  counts : (List.finRange 10).map (fun ddc => (f.words ddc).length)
    = analyseDdcHeader 10 f.rateWord.toNat
  last : f.rateWord.toNat / 2 ^ 27 % 8 ≠ 7
  rateWord : f.rateWord ≠ 0xFFFFFFFF

end Frame

@[simp]
theorem length_iqWord (w : IqWord) : w.bytes.length = 8 := rfl

theorem length_words (ws : List IqWord) : (ws.flatMap IqWord.bytes).length = 8 * ws.length := by
  induction ws with
  | nil => rfl
  | cons w ws ih =>
    rw [List.flatMap_cons, List.length_append, ih, length_iqWord, List.length_cons]
    omega

theorem copySamples_words (ws : List IqWord) (tail : List Byte)
    : copySamples ws.length (ws.flatMap IqWord.bytes ++ tail)
        = (ws.map IqWord.sample).flatMap iqBytes := by
  induction ws with
  | nil => rfl
  | cons w ws ih =>
    rw [List.length_cons, copySamples, List.flatMap_cons, List.append_assoc, List.map_cons,
      List.flatMap_cons, ← ih]
    rfl

-- the words of the DDCs from `ddc` on
theorem copyFrame_words (wss : List (List IqWord)) (iq : Channel → Region) (ddc : Nat)
    (tail : List Byte) (k : Channel)
    : copyFrame ((wss.flatMap fun ws => ws.flatMap IqWord.bytes) ++ tail) iq
          (wss.map List.length) ddc k
        = if ddc ≤ k.val ∧ k.val < ddc + wss.length then
            (iq k).write (((wss.getD (k.val - ddc) []).map IqWord.sample).flatMap iqBytes)
          else iq k := by
  induction wss generalizing iq ddc with
  | nil =>
    rw [List.map_nil, copyFrame, if_neg]
    rw [List.length_nil]
    omega
  | cons ws wss ih =>
    have hdrop : (((ws :: wss).flatMap fun ws => ws.flatMap IqWord.bytes) ++ tail).drop
        (8 * ws.length) = (wss.flatMap fun ws => ws.flatMap IqWord.bytes) ++ tail := by
      rw [List.flatMap_cons, List.append_assoc, ← length_words, List.drop_left]
    have hcopy : copySamples ws.length
        (((ws :: wss).flatMap fun ws => ws.flatMap IqWord.bytes) ++ tail)
          = (ws.map IqWord.sample).flatMap iqBytes := by
      rw [List.flatMap_cons, List.append_assoc, copySamples_words]
    rw [List.map_cons, copyFrame, hdrop, ih, hcopy, List.length_cons]
    by_cases hk : k.val = ddc
    . rw [if_neg (by omega), if_pos hk, if_pos (by omega), hk, Nat.sub_self, List.getD_cons_zero]
    . by_cases hin : ddc + 1 ≤ k.val ∧ k.val < ddc + 1 + wss.length
      . have hsub : k.val - ddc = k.val - (ddc + 1) + 1 := by omega
        rw [if_pos hin, if_neg hk, if_pos (by omega), hsub, List.getD_cons_succ]
      . rw [if_neg hin, if_neg hk, if_neg (by omega)]

theorem copyFrame_body {f : Frame} (hf : f.Ok) (iq : Channel → Region) (tail : List Byte)
    : copyFrame (f.body ++ tail) iq (analyseDdcHeader 10 f.rateWord.toNat) 0
        = fun k => (iq k).write ((f.samples k).flatMap iqBytes) := by
  have hcounts : analyseDdcHeader 10 f.rateWord.toNat
      = ((List.finRange 10).map f.words).map List.length := by
    rw [← hf.counts, List.map_map]
    rfl
  funext k
  rw [Frame.body, hcounts, copyFrame_words, if_pos, Nat.sub_zero, List.getD_eq_getElem _ _ (by simp)]
  . simp [Frame.samples]
  . simp

theorem ddcSampleCount_le (rate : Nat) : ddcSampleCount rate ≤ 32 := by
  unfold ddcSampleCount
  by_cases h : rate < 8
  . revert h
    revert rate
    decide
  . rw [List.getD_eq_default _ _ (by simpa using h)]
    decide

theorem sum_analyseDdcHeader_le (n header : Nat) : (analyseDdcHeader n header).sum ≤ 32 * n + 32 := by
  have hone (header : Nat) : (analyseDdcHeader 1 header).sum ≤ 64 := by
    have := ddcSampleCount_le (header % 8)
    have := ddcSampleCount_le (header / 8 % 8)
    unfold analyseDdcHeader
    split <;> rw [List.sum_singleton] <;> omega
  induction n using Nat.twoStepInduction generalizing header with
  | zero => exact Nat.zero_le _
  | one => exact hone header
  | more n ih ih' =>
    have := ddcSampleCount_le (header % 8)
    have := ddcSampleCount_le (header / 8 % 8)
    have := ih (header / 64)
    have := ih' (header / 8)
    unfold analyseDdcHeader
    split
    . rw [List.sum_cons]
      omega
    . rw [List.sum_cons, List.sum_cons]
      omega

theorem length_body {f : Frame} (hf : f.Ok)
    : f.body.length = 8 * (analyseDdcHeader 10 f.rateWord.toNat).sum := by
  have hsum (wss : List (List IqWord))
      : (wss.flatMap fun ws => ws.flatMap IqWord.bytes).length = 8 * (wss.map List.length).sum := by
    induction wss with
    | nil => rfl
    | cons ws wss ih =>
      rw [List.flatMap_cons, List.length_append, length_words, ih, List.map_cons, List.sum_cons]
      omega
  rw [Frame.body, hsum, ← hf.counts, List.map_map]
  rfl

/-! Shipping: 238 samples a packet, the packets of a DDC numbered without a gap. -/

def numbered : BitVec 32 → List (List Sample) → List (List Byte)
  | _, [] => []
  | sequence, chunk :: chunks =>
    iqPacket sequence (chunk.flatMap iqBytes) :: numbered (sequence + 1) chunks

theorem sequence_add_one (sequence : BitVec 32) (n : Nat)
    : sequence + 1 + BitVec.ofNat 32 n = sequence + BitVec.ofNat 32 (n + 1) := by
  rw [BitVec.ofNat_add, BitVec.add_assoc, BitVec.add_comm 1]
  rfl

theorem numbered_append (sequence : BitVec 32) (cs ds : List (List Sample))
    : numbered sequence (cs ++ ds)
        = numbered sequence cs ++ numbered (sequence + BitVec.ofNat 32 cs.length) ds := by
  induction cs generalizing sequence with
  | nil => simp [numbered]
  | cons c cs ih =>
    rw [List.cons_append, numbered, numbered, ih, sequence_add_one, List.cons_append,
      List.length_cons]

theorem flatMap_iqBytes_split (n : Nat) (ss : List Sample)
    : (ss.flatMap iqBytes).take (6 * n) = (ss.take n).flatMap iqBytes
      ∧ (ss.flatMap iqBytes).drop (6 * n) = (ss.drop n).flatMap iqBytes := by
  induction n generalizing ss with
  | zero => simp
  | succ n ih =>
    cases ss with
    | nil => simp
    | cons s ss =>
      have hs : (iqBytes s).length = 6 := rfl
      have hn : 6 * (n + 1) = (iqBytes s).length + 6 * n := by omega
      rw [List.flatMap_cons, hn, List.take_length_add_append, List.drop_length_add_append,
        (ih ss).1, (ih ss).2]
      exact ⟨rfl, rfl⟩

theorem ship_of_lt (ddc : Channel) (sequence : BitVec 32) {r : Region}
    (h : iqBytesPerFrame < r.data.length)
    : ship ddc sequence r
        = ((if ddc < 6 then [] else [iqPacket sequence (r.data.take iqBytesPerFrame)])
            ++ (ship ddc (if ddc < 6 then 0 else sequence + 1) (r.skip iqBytesPerFrame)).1,
          (ship ddc (if ddc < 6 then 0 else sequence + 1) (r.skip iqBytesPerFrame)).2) := by
  rw [ship, dif_pos h]

theorem ship_samples (ddc : Channel) (sequence : BitVec 32) (r : Region) {ss : List Sample}
    (hr : r.data = ss.flatMap iqBytes)
    : ∃ chunks left,
        ss = chunks.flatten ++ left
        ∧ (∀ c ∈ chunks, c.length = 238)
        ∧ left.length ≤ 238
        ∧ (ship ddc sequence r).2.2
            = ⟨r.read + (iqBytesPerFrame * chunks.length : Nat), left.flatMap iqBytes⟩
        ∧ (6 ≤ ddc.val →
            (ship ddc sequence r).1 = numbered sequence chunks
            ∧ (ship ddc sequence r).2.1 = sequence + BitVec.ofNat 32 chunks.length) := by
  induction hn : ss.length using Nat.strong_induction_on generalizing ss r sequence with
  | _ n ih =>
    have hlen : r.data.length = ss.length * 6 := by rw [hr, length_iqBytes]
    by_cases h : iqBytesPerFrame < r.data.length
    . have hframe : iqBytesPerFrame = 6 * 238 := rfl
      have hskip : (r.skip iqBytesPerFrame).data = (ss.drop 238).flatMap iqBytes := by
        rw [Region.skip, hr, hframe, (flatMap_iqBytes_split 238 ss).2]
      have htake : r.data.take iqBytesPerFrame = (ss.take 238).flatMap iqBytes := by
        rw [hr, hframe, (flatMap_iqBytes_split 238 ss).1]
      obtain ⟨chunks, left, hss, hchunks, hleft, hregion, hposted⟩ :=
        ih (ss.drop 238).length (by rw [List.length_drop]; omega)
          (if ddc < 6 then 0 else sequence + 1) _ hskip rfl
      rw [ship_of_lt ddc sequence h]
      refine ⟨ss.take 238 :: chunks, left, ?_, ?_, hleft, ?_, ?_⟩
      . rw [List.flatten_cons, List.append_assoc, ← hss, List.take_append_drop]
      . rintro c (_ | ⟨_, hc⟩)
        . rw [List.length_take]
          omega
        . exact hchunks c hc
      . have hread : (r.skip iqBytesPerFrame).read + (iqBytesPerFrame * chunks.length : Nat)
            = r.read + (iqBytesPerFrame * (chunks.length + 1) : Nat) := by
          show r.read + (iqBytesPerFrame : Nat) + (iqBytesPerFrame * chunks.length : Nat) = _
          rw [hframe]
          omega
        rw [hregion, hread, List.length_cons]
      . intro hddc
        have hnot : ¬ ddc < 6 := fun hlt => by
          have := Fin.lt_def.1 hlt
          have h6 : (6 : Channel).val = 6 := rfl
          omega
        obtain ⟨hpackets, hseq⟩ := hposted hddc
        rw [if_neg hnot] at hpackets hseq
        rw [sequence_add_one] at hseq
        simp only [if_neg hnot, hpackets, hseq, htake, numbered, List.length_cons,
          List.singleton_append, true_and]
    . have hframe : iqBytesPerFrame = 6 * 238 := rfl
      rw [ship, dif_neg h]
      exact ⟨[], ss, by simp, by simp, by omega, by simp [← hr], fun _ => by simp [numbered]⟩

/-! Decoding: all complete frames of the DMA buffer, and nothing of the incomplete one. -/

theorem length_header (f : Frame) : f.header.length = 8 := rfl

theorem length_bytes {f : Frame} (hf : f.Ok)
    : f.bytes.length = ((analyseDdcHeader 10 f.rateWord.toNat).sum + 1) * 8 := by
  rw [Frame.bytes, List.length_append, length_header, length_body hf]
  omega

theorem length_bytes_le {f : Frame} (hf : f.Ok) : f.bytes.length ≤ 2824 := by
  have := sum_analyseDdcHeader_le 10 f.rateWord.toNat
  rw [length_bytes hf]
  omega

theorem length_samples_le {f : Frame} (hf : f.Ok) (ddc : Channel)
    : 8 * (f.samples ddc).length ≤ f.bytes.length := by
  have hmem : (f.words ddc).length ∈ (List.finRange 10).map fun ddc => (f.words ddc).length :=
    List.mem_map.2 ⟨ddc, List.mem_finRange ddc, rfl⟩
  have := List.le_sum_of_mem hmem
  rw [hf.counts] at this
  rw [Frame.samples, List.length_map, length_bytes hf]
  omega

theorem length_allSamples_le {frames : List Frame} (hframes : ∀ f ∈ frames, f.Ok) (ddc : Channel)
    : 8 * (frames.flatMap fun f => f.samples ddc).length ≤ (frames.flatMap Frame.bytes).length := by
  induction frames with
  | nil => exact Nat.le_refl _
  | cons f frames ih =>
    have := length_samples_le (hframes f (List.mem_cons_self ..)) ddc
    have := ih fun g hg => hframes g (List.mem_cons_of_mem _ hg)
    simp only [List.flatMap_cons, List.length_append]
    omega

namespace RxThread

-- what is known about the frames belongs to the rate word that has been seen last
def Cached (t : RxThread) : Prop :=
  t.prevRateWord ≠ 0xFFFFFFFF →
    t.ddcCounts = analyseDdcHeader 10 t.prevRateWord.toNat
    ∧ t.frameLength = (analyseDdcHeader 10 t.prevRateWord.toNat).sum

theorem analyse_eq {t : RxThread} (ht : t.Cached) {rateWord : BitVec 32}
    (hrate : rateWord ≠ 0xFFFFFFFF)
    : t.analyse rateWord = { t with
        prevRateWord := rateWord
        ddcCounts := analyseDdcHeader 10 rateWord.toNat
        frameLength := (analyseDdcHeader 10 rateWord.toNat).sum } := by
  unfold analyse
  by_cases h : rateWord ≠ t.prevRateWord
  . rw [if_pos h]
  . have heq : rateWord = t.prevRateWord := not_not.1 h
    obtain ⟨hcounts, hlength⟩ := ht (heq ▸ hrate)
    rw [if_neg h, heq, ← hlength, ← hcounts]

theorem rateWord_header (f : Frame) (tail : List Byte) : rateWord (f.header ++ tail) = f.rateWord := by
  exact Packet.append_extract f.rateWord

/-- A run of the decoder has taken the first `n` bytes with the frames `done`. -/
structure Decoded (t : RxThread) (done : List Frame) (t' : RxThread) : Prop where
  cached : t'.Cached
  headerFound : t'.headerFound = t.headerFound
  dmaTransferSize : t'.dmaTransferSize = t.dmaTransferSize
  sequence : t'.sequence = t.sequence
  dma : t.dma.data = done.flatMap Frame.bytes ++ t'.dma.data
  read : t'.dma.read = t.dma.read + (done.flatMap Frame.bytes).length
  iq : ∀ ddc, t'.iq ddc
    = (t.iq ddc).write ((done.flatMap fun f => f.samples ddc).flatMap iqBytes)

theorem getD_header (f : Frame) (tail : List Byte) : (f.header ++ tail).getD 7 0 = 0x80 := rfl

/-- Only an incomplete frame is left. -/
theorem decode_frames {t : RxThread} {rest : List Frame} {fifo : List Byte}
    (hrest : ∀ f ∈ rest, f.Ok) (ht : t.Cached)
    (hdata : t.dma.data ++ fifo = rest.flatMap Frame.bytes)
    : ∃ done rest' t',
        rest = done ++ rest'
        ∧ t.decode = some t'
        ∧ t.Decoded done t'
        ∧ t'.dma.data ++ fifo = rest'.flatMap Frame.bytes
        ∧ t'.dma.data.length < 2824 := by
  induction rest generalizing t with
  | nil =>
    have hnil : t.dma.data = [] := (List.append_eq_nil_iff.1 hdata).1
    rw [decode, dif_neg (by simp [hnil])]
    exact ⟨[], [], t, rfl, rfl, ⟨ht, rfl, rfl, rfl, by simp, by simp, fun _ => by simp [Region.write]⟩,
      hdata, by simp [hnil]⟩
  | cons f rest ih =>
    have hf := hrest f (List.mem_cons_self ..)
    have hlen := length_bytes_le hf
    have hnone : t.Decoded [] t := ⟨ht, rfl, rfl, rfl, by simp, by simp, fun _ => by simp [Region.write]⟩
    rw [decode]
    by_cases h16 : t.dma.data.length ≥ 16
    . -- the header of the frame is complete, as is perhaps the frame
      obtain ⟨more, hmore⟩ : ∃ more, t.dma.data = f.header ++ more := by
        have hprefix : f.header <+: t.dma.data ++ fifo :=
          ⟨f.body ++ rest.flatMap Frame.bytes, by
            rw [hdata, List.flatMap_cons, Frame.bytes, List.append_assoc]⟩
        obtain ⟨more, hmore⟩ := List.prefix_of_prefix_length_le hprefix
          (List.prefix_append t.dma.data fifo) (by rw [length_header]; omega)
        exact ⟨more, hmore.symm⟩
      have hrate : rateWord t.dma.data = f.rateWord := by rw [hmore, rateWord_header]
      rw [dif_pos h16, if_neg (by rw [hmore, getD_header]; exact not_not.2 rfl), hrate,
        analyse_eq ht hf.rateWord]
      dsimp only
      rw [← length_bytes hf]
      by_cases hall : t.dma.data.length ≥ f.bytes.length
      . obtain ⟨tail, htail⟩ : ∃ tail, t.dma.data = f.bytes ++ tail := by
          obtain ⟨tail, htail⟩ := List.prefix_of_prefix_length_le
            ⟨rest.flatMap Frame.bytes, by rw [hdata, List.flatMap_cons]⟩
            (List.prefix_append t.dma.data fifo) hall
          exact ⟨tail, htail.symm⟩
        have hbody : t.dma.data.drop 8 = f.body ++ tail := by
          rw [htail, Frame.bytes, List.append_assoc, ← length_header f, List.drop_left]
        have hskip : t.dma.skip f.bytes.length = ⟨t.dma.read + f.bytes.length, tail⟩ := by
          rw [Region.skip, htail, List.drop_left]
        have hfifo : tail ++ fifo = rest.flatMap Frame.bytes := by
          rw [htail, List.append_assoc, List.flatMap_cons] at hdata
          exact List.append_cancel_left hdata
        rw [if_pos hall, hbody, hskip, copyFrame_body hf]
        obtain ⟨done, rest', t', hsplit, hdecode, hdecoded, hleft, hshort⟩ :=
          ih (t := { t with
              prevRateWord := f.rateWord
              ddcCounts := analyseDdcHeader 10 f.rateWord.toNat
              frameLength := (analyseDdcHeader 10 f.rateWord.toNat).sum
              dma := ⟨t.dma.read + f.bytes.length, tail⟩
              iq := fun k => (t.iq k).write ((f.samples k).flatMap iqBytes) })
            (fun g hg => hrest g (List.mem_cons_of_mem _ hg)) (fun _ => ⟨rfl, rfl⟩) hfifo
        refine ⟨f :: done, rest', t', by rw [hsplit, List.cons_append], hdecode, ?_, hleft, hshort⟩
        refine ⟨hdecoded.cached, hdecoded.headerFound, hdecoded.dmaTransferSize, hdecoded.sequence,
          ?_, ?_, ?_⟩
        . have htail' : tail = done.flatMap Frame.bytes ++ t'.dma.data := hdecoded.dma
          rw [htail, htail', List.flatMap_cons, List.append_assoc]
        . have hread : t'.dma.read
              = t.dma.read + f.bytes.length + (done.flatMap Frame.bytes).length := hdecoded.read
          rw [hread, List.flatMap_cons, List.length_append]
          omega
        . intro ddc
          rw [hdecoded.iq ddc, List.flatMap_cons, List.flatMap_append]
          simp only [Region.write, List.append_assoc]
      . rw [if_neg hall]
        refine ⟨[], f :: rest, _, rfl, rfl, ?_, hdata, by show t.dma.data.length < _; omega⟩
        exact ⟨fun _ => ⟨rfl, rfl⟩, rfl, rfl, rfl, by simp, by simp, fun _ => by simp [Region.write]⟩
    . rw [dif_neg h16]
      exact ⟨[], f :: rest, t, rfl, rfl, hnone, hdata, by omega⟩

/--
What comes before the first frame that is seen: the first two words are not looked at, and the others
are not taken for a header.
-/
structure Preamble (pre : List Byte) : Prop where
  words : pre.length % 8 = 0
  skipped : 16 ≤ pre.length
  length : pre.length + 8 ≤ 4096
  noHeader : ∀ i < pre.length, 16 ≤ i → i % 8 = 0 → pre.getD (i + 7) 0 ≠ 0x80

theorem findHeader_preamble {pre : List Byte} (hpre : Preamble pre) (f : Frame) (tail : List Byte)
    : findHeader (pre ++ (f.header ++ tail)) = some pre.length := by
  obtain ⟨hwords, hskipped, -, hnone⟩ := hpre
  have hcount : ((pre ++ (f.header ++ tail)).length - 9) / 8
      = (pre.length - 16) / 8 + ((tail.length + 7) / 8 + 1) := by
    rw [List.length_append, List.length_append, length_header]
    omega
  have hstart : 16 + 8 * ((pre.length - 16) / 8) = pre.length := by omega
  have hbefore : (List.range' 16 ((pre.length - 16) / 8) 8).find?
      (fun cntr => (pre ++ (f.header ++ tail)).getD (cntr + 7) 0 = 0x80) = none := by
    rw [List.find?_eq_none]
    intro i hi
    obtain ⟨j, hj, rfl⟩ := List.mem_range'.1 hi
    have := hnone (16 + 8 * j) (by omega) (by omega) (by omega)
    rw [List.getD_append _ _ _ _ (by omega), decide_eq_true_iff]
    exact this
  have hat : (pre ++ (f.header ++ tail)).getD (pre.length + 7) 0 = 0x80 := by
    rw [List.getD_append_right _ _ _ _ (Nat.le_add_right ..), Nat.add_sub_cancel_left, getD_header]
  rw [findHeader, hcount, ← List.range'_append, hstart, List.find?_append, hbefore, List.range'_succ,
    List.find?_cons_of_pos (by rw [hat]; rfl)]
  rfl

theorem transferSize_bounds (depth : Nat) : 4096 ≤ transferSize depth ∧ transferSize depth ≤ 32768 := by
  unfold transferSize
  split
  . decide
  . split
    . decide
    . split <;> decide

-- from where the thread has to go on
def AtFrame (t : RxThread) (pre : List Byte) (rest : List Frame) (fifo : List Byte) : Prop :=
  if t.headerFound then
    t.dma.data ++ fifo = rest.flatMap Frame.bytes
  else
    t.dma.data = [] ∧ fifo = pre ++ rest.flatMap Frame.bytes

/-- After a transfer, whose end is `size` bytes after the base, the first frame is found. -/
theorem seekHeader_atFrame {t : RxThread} {pre : List Byte} {rest : List Frame} {fifo : List Byte}
    {size : Nat} (hpre : Preamble pre) (ht : t.AtFrame pre rest fifo) (hsize : 4096 ≤ size)
    (hfifo : size ≤ fifo.length) (hread : t.dma.read = -t.dma.data.length)
    (hshort : t.dma.data.length < 2824)
    : ∃ r : Region,
        seekHeader { t with dmaTransferSize := size, dma := t.dma.write (fifo.take size) }
          = some { t with dmaTransferSize := size, headerFound := true, dma := r }
        ∧ r.data ++ fifo.drop size = rest.flatMap Frame.bytes
        ∧ r.read + r.data.length = size
        ∧ -2824 < r.read := by
  unfold AtFrame at ht
  unfold seekHeader
  by_cases hfound : t.headerFound = true
  . rw [if_pos hfound] at ht
    rw [if_pos hfound]
    refine ⟨t.dma.write (fifo.take size), by rw [hfound], ?_, ?_, ?_⟩
    . rw [Region.write, List.append_assoc, List.take_append_drop, ht]
    . simp only [Region.write, List.length_append, List.length_take, hread]
      omega
    . show -2824 < t.dma.read
      omega
  . rw [if_neg hfound] at ht
    obtain ⟨hnil, hfifo'⟩ := ht
    rw [if_neg hfound]
    have hlength := hpre.length
    cases rest with
    | nil =>
      rw [hfifo', List.flatMap_nil, List.append_nil] at hfifo
      omega
    | cons f rest =>
      have htake : t.dma.data ++ fifo.take size = pre ++ (f.header
          ++ (f.body ++ rest.flatMap Frame.bytes).take (size - pre.length - 8)) := by
        rw [hnil, List.nil_append, hfifo', List.flatMap_cons, Frame.bytes, List.append_assoc,
          List.take_append, List.take_append, length_header, List.take_of_length_le (by omega),
          List.take_of_length_le (l := f.header) (by rw [length_header]; omega)]
      have hfind : findHeader (t.dma.data ++ fifo.take size) = some pre.length := by
        rw [htake, findHeader_preamble hpre]
      refine ⟨(t.dma.write (fifo.take size)).skip pre.length, ?_, ?_, ?_, ?_⟩
      . show (findHeader (t.dma.data ++ fifo.take size)).map _ = _
        rw [hfind]
        rfl
      . have hdrop : (fifo.take size).drop pre.length ++ fifo.drop size
            = (fifo.take size ++ fifo.drop size).drop pre.length := by
          rw [List.drop_append_of_le_length]
          rw [List.length_take]
          omega
        show (t.dma.data ++ fifo.take size).drop pre.length ++ fifo.drop size = _
        rw [hnil, List.nil_append, hdrop, List.take_append_drop, hfifo', List.drop_left]
      . show t.dma.read + (pre.length : Nat)
          + (((t.dma.data ++ fifo.take size).drop pre.length).length : Nat) = size
        rw [List.length_drop, List.length_append, List.length_take]
        omega
      . show -2824 < t.dma.read + (pre.length : Nat)
        omega

end RxThread

/-! Runs of the thread. -/

namespace RxSystem

/-- The samples of a DDC in the frames that have been decoded are in its packets or left over. -/
structure DdcInv (y : RxSystem) (done : List Frame) (ddc : Channel) (bound : Nat)
    (chunks : List (List Sample)) (left : List Sample) : Prop where
  samples : (done.flatMap fun f => f.samples ddc) = chunks.flatten ++ left
  full : ∀ c ∈ chunks, c.length = 238
  data : (y.thread.iq ddc).data = left.flatMap iqBytes
  readLow : -1428 ≤ (y.thread.iq ddc).read
  readHigh : (y.thread.iq ddc).read ≤ 0
  few : left.length ≤ bound
  posted : 6 ≤ ddc.val →
    y.packets ddc = numbered 0 chunks
    ∧ y.thread.sequence ddc = BitVec.ofNat 32 chunks.length

/-- The frames `done` have been decoded and `rest` is to come. -/
structure Inv (pre : List Byte) (y : RxSystem) (bound : Nat) (done rest : List Frame) : Prop where
  ok : ∀ f ∈ rest, f.Ok
  cached : y.thread.Cached
  atFrame : y.thread.AtFrame pre rest y.fifo
  first : y.thread.headerFound = false → done = []
  read : y.thread.dma.read = -y.thread.dma.data.length
  short : y.thread.dma.data.length < 2824
  ddc : ∀ k, ∃ chunks left, y.DdcInv done k bound chunks left

theorem inv_start {pre : List Byte} {frames : List Frame} (hframes : ∀ f ∈ frames, f.Ok)
    : (start (pre ++ frames.flatMap Frame.bytes)).Inv pre 4686 [] frames where
  ok := hframes
  cached h := absurd rfl h
  atFrame := ⟨rfl, rfl⟩
  first _ := rfl
  read := rfl
  short := Nat.succ_pos _
  ddc k := ⟨[], [], rfl, by simp, rfl, (by decide : (-1428 : Int) ≤ 0), Int.le_refl 0, Nat.zero_le _,
    fun _ => ⟨rfl, rfl⟩⟩

-- the first part of a turn
def shipped (y : RxSystem) : RxSystem :=
  ⟨y.thread.shipAll, y.fifo, fun k => y.packets k ++ y.thread.posted k⟩

theorem read_moveDown (r : Region) {ss : List Sample} (hr : r.data = ss.flatMap iqBytes)
    (hss : ss.length ≤ 238) (hread : -1428 ≤ r.read)
    : -1428 ≤ r.moveDown.read ∧ r.moveDown.read ≤ 0 ∧ r.moveDown.data = r.data := by
  have hlen : r.data.length = ss.length * 6 := by rw [hr, length_iqBytes]
  unfold Region.moveDown
  split
  . exact ⟨by show -1428 ≤ -(r.data.length : Int); omega,
      by show -(r.data.length : Int) ≤ 0; omega, rfl⟩
  . exact ⟨hread, by omega, rfl⟩

theorem shipped_inv {pre : List Byte} {y : RxSystem} {bound : Nat} {done rest : List Frame}
    (h : y.Inv pre bound done rest) : y.shipped.Inv pre 238 done rest where
  ok := h.ok
  cached := h.cached
  atFrame := h.atFrame
  first := h.first
  read := h.read
  short := h.short
  ddc k := by
    obtain ⟨chunks, left, hddc⟩ := h.ddc k
    obtain ⟨more, left', hleft, hmore, hlength, hregion, hposted⟩ :=
      ship_samples k (y.thread.sequence k) (y.thread.iq k) hddc.data
    have hlow := hddc.readLow
    obtain ⟨hreadLow, hreadHigh, hdata⟩ := read_moveDown
      (ship k (y.thread.sequence k) (y.thread.iq k)).2.2
      (show _ = left'.flatMap iqBytes by rw [hregion]) hlength
      (by rw [hregion]; show _ ≤ (y.thread.iq k).read + _; omega)
    refine ⟨chunks ++ more, left', ?_, ?_, ?_, hreadLow, hreadHigh, hlength, ?_⟩
    . rw [hddc.samples, hleft, List.flatten_append, List.append_assoc]
    . intro c hc
      rcases List.mem_append.1 hc with hc | hc
      . exact hddc.full c hc
      . exact hmore c hc
    . exact hdata.trans (by rw [hregion])
    . intro hk
      obtain ⟨hpackets, hseq⟩ := hddc.posted hk
      obtain ⟨hnew, hseq'⟩ := hposted hk
      constructor
      . show y.packets k ++ (ship k _ _).1 = _
        have hzero : (0 : BitVec 32) + BitVec.ofNat 32 chunks.length = BitVec.ofNat 32 chunks.length :=
          BitVec.zero_add _
        rw [hpackets, hnew, hseq, numbered_append, hzero]
      . show (ship k _ _).2.1 = _
        rw [hseq', hseq, List.length_append, BitVec.ofNat_add]

theorem Inv.weaken {pre : List Byte} {y : RxSystem} {done rest : List Frame}
    (h : y.Inv pre 238 done rest) : y.Inv pre 4686 done rest :=
  { h with
    ddc := fun k =>
      let ⟨chunks, left, hddc⟩ := h.ddc k
      ⟨chunks, left, { hddc with few := by have := hddc.few; omega }⟩ }

theorem turn_eq (y : RxSystem) (depth : Nat)
    : y.turn depth =
        if depth < y.thread.dmaTransferSize / 8 ∨ y.fifo.length < RxThread.transferSize depth then
          some y.shipped
        else do
          let t ← RxThread.seekHeader { y.shipped.thread with
            dmaTransferSize := RxThread.transferSize depth
            dma := y.thread.dma.write (y.fifo.take (RxThread.transferSize depth)) }
          let t ← t.decode
          return ⟨{ t with dma := t.dma.moveDown }, y.fifo.drop (RxThread.transferSize depth),
            y.shipped.packets⟩ :=
  rfl

theorem turn_inv {pre : List Byte} (hpre : RxThread.Preamble pre) {y : RxSystem} {done rest : List Frame}
    (h : y.Inv pre 4686 done rest) (depth : Nat)
    : ∃ more rest' y',
        rest = more ++ rest' ∧ y.turn depth = some y' ∧ y'.Inv pre 4686 (done ++ more) rest' := by
  have hship := shipped_inv h
  obtain ⟨hsize, hmax⟩ := RxThread.transferSize_bounds depth
  rw [turn_eq]
  by_cases hwait : depth < y.thread.dmaTransferSize / 8
      ∨ y.fifo.length < RxThread.transferSize depth
  . rw [if_pos hwait]
    exact ⟨[], rest, _, rfl, rfl, (List.append_nil done).symm ▸ hship.weaken⟩
  . rw [if_neg hwait]
    obtain ⟨r, hseek, hdata, hhead, hlow⟩ := RxThread.seekHeader_atFrame hpre hship.atFrame hsize
      (by show _ ≤ y.fifo.length; omega) hship.read hship.short
    obtain ⟨more, rest', t', hrest, hdecode, hdecoded, hleft, hshort⟩ :=
      RxThread.decode_frames (t := { y.shipped.thread with
        dmaTransferSize := RxThread.transferSize depth, headerFound := true, dma := r })
        h.ok hship.cached hdata
    have hdma : r.data.length = (more.flatMap Frame.bytes).length + t'.dma.data.length := by
      rw [← List.length_append, ← hdecoded.dma]
    have hread : t'.dma.read = r.read + (more.flatMap Frame.bytes).length := hdecoded.read
    have hmoved : t'.dma.moveDown = ⟨-t'.dma.data.length, t'.dma.data⟩ := by
      rw [Region.moveDown, if_pos (by omega)]
    have hmore : ∀ f ∈ more, f.Ok := fun f hf => h.ok f (hrest ▸ List.mem_append_left _ hf)
    have hfound : t'.headerFound = true := hdecoded.headerFound
    refine ⟨more, rest', ⟨{ t' with dma := t'.dma.moveDown },
      y.fifo.drop (RxThread.transferSize depth), y.shipped.packets⟩, hrest, ?_, ?_⟩
    . refine (congrArg (Option.bind · _) hseek).trans ?_
      exact (congrArg (Option.bind · _) hdecode).trans rfl
    . rw [hmoved]
      refine ⟨fun f hf => h.ok f (hrest ▸ List.mem_append_right _ hf), hdecoded.cached, ?_,
        fun hnot => ?_, rfl, hshort, fun k => ?_⟩
      . rw [RxThread.AtFrame, if_pos hfound]
        exact hleft
      . rw [hfound] at hnot
        contradiction
      . obtain ⟨chunks, left, hddc⟩ := hship.ddc k
        have hcount := length_allSamples_le hmore k
        have hfew := hddc.few
        refine ⟨chunks, left ++ more.flatMap fun f => f.samples k, ?_, hddc.full, ?_, ?_, ?_, ?_, ?_⟩
        . rw [List.flatMap_append, hddc.samples, List.append_assoc]
        . show (t'.iq k).data = _
          rw [hdecoded.iq k, List.flatMap_append, ← hddc.data]
          rfl
        . show _ ≤ (t'.iq k).read
          rw [hdecoded.iq k]
          exact hddc.readLow
        . show (t'.iq k).read ≤ _
          rw [hdecoded.iq k]
          exact hddc.readHigh
        . rw [List.length_append]
          omega
        . intro hk
          obtain ⟨hpackets, hseq⟩ := hddc.posted hk
          refine ⟨hpackets, ?_⟩
          show t'.sequence k = _
          rw [hdecoded.sequence]
          exact hseq

theorem exec_inv {pre : List Byte} (hpre : RxThread.Preamble pre) {y : RxSystem} {done rest : List Frame}
    (h : y.Inv pre 4686 done rest) (depths : List Nat)
    : ∃ more rest' y',
        rest = more ++ rest' ∧ y.exec depths = some y' ∧ y'.Inv pre 4686 (done ++ more) rest' := by
  induction depths generalizing y done rest with
  | nil => exact ⟨[], rest, y, rfl, rfl, (List.append_nil done).symm ▸ h⟩
  | cons depth depths ih =>
    obtain ⟨more, rest', y', hrest, hturn, hinv⟩ := turn_inv hpre h depth
    obtain ⟨more', rest'', y'', hrest', hexec, hinv'⟩ := ih hinv
    refine ⟨more ++ more', rest'', y'', ?_, ?_, ?_⟩
    . rw [hrest, hrest', List.append_assoc]
    . rw [exec, List.foldlM_cons, hturn]
      exact hexec
    . rw [← List.append_assoc]
      exact hinv'

end RxSystem

/-! What the threads of the receivers make of the packets. -/

section Receiver

open NewProtocol

def sampleValue (s : Sample) : IqPair := (s.1.toInt / 2 ^ 23, s.2.toInt / 2 ^ 23)

theorem pair_iqBytes (pre : List Byte) (s : Sample) (tail : List Byte)
    : IqPacket.pair (pre ++ (iqBytes s ++ tail)) pre.length = sampleValue s := by
  have hbyte (j : Nat) : IqPacket.byte (pre ++ (iqBytes s ++ tail)) (pre.length + j)
      = (iqBytes s ++ tail).getD j 0 := by
    rw [IqPacket.byte, List.getD_append_right _ _ _ _ (Nat.le_add_right ..), Nat.add_sub_cancel_left]
  have hvalue (j : Nat) : IqPacket.value (pre ++ (iqBytes s ++ tail)) (pre.length + j)
      = ((iqBytes s ++ tail).getD j 0 ++ (iqBytes s ++ tail).getD (j + 1) 0
          ++ (iqBytes s ++ tail).getD (j + 2) 0).toInt / 2 ^ 23 := by
    rw [IqPacket.value, hbyte, ← hbyte (j + 1), ← hbyte (j + 2)]
    rfl
  have hbytes (x : BitVec 24)
      : x.extractLsb' 16 8 ++ x.extractLsb' 8 8 ++ x.extractLsb' 0 8 = x := by
    rw [BitVec.extractLsb'_append_extractLsb'_eq_extractLsb' (by omega),
      BitVec.extractLsb'_append_extractLsb'_eq_extractLsb' (by omega), BitVec.extractLsb'_eq_self]
  unfold IqPacket.pair sampleValue
  have hi := hvalue 0
  have hq := hvalue 3
  rw [Nat.add_zero] at hi
  rw [hi, hq]
  exact congrArg₂ (fun x y : BitVec 24 => ((x.toInt : ℚ) / 2 ^ 23, (y.toInt : ℚ) / 2 ^ 23))
    (hbytes s.1) (hbytes s.2)

theorem pairsFrom_iqBytes (ss : List Sample) (pre tail : List Byte)
    : IqPacket.pairsFrom (IqPacket.pair (pre ++ (ss.flatMap iqBytes ++ tail))) ss.length pre.length
        = ss.map sampleValue := by
  induction ss generalizing pre with
  | nil => rfl
  | cons s ss ih =>
    have hsplit : pre ++ ((s :: ss).flatMap iqBytes ++ tail)
        = pre ++ iqBytes s ++ (ss.flatMap iqBytes ++ tail) := by
      rw [List.flatMap_cons, List.append_assoc, List.append_assoc]
    have hlen : pre.length + 6 = (pre ++ iqBytes s).length := by
      rw [List.length_append]
      rfl
    rw [List.length_cons, IqPacket.pairsFrom, hlen, hsplit, ih, List.append_assoc, pair_iqBytes,
      List.map_cons]

def chunkPacket (sequence : BitVec 32) (chunk : List Sample) : List Byte :=
  iqPacket sequence (chunk.flatMap iqBytes)

theorem samplesPerFrame_chunkPacket (sequence : BitVec 32) (chunk : List Sample)
    : IqPacket.samplesPerFrame (chunkPacket sequence chunk) = 238 := by
  have hhigh : IqPacket.byte (chunkPacket sequence chunk) 14 = 0 := rfl
  have hlow : IqPacket.byte (chunkPacket sequence chunk) 15 = 238 := rfl
  rw [IqPacket.samplesPerFrame, hhigh, hlow]
  rfl

theorem samples_chunkPacket (sequence : BitVec 32) {chunk : List Sample} (hchunk : chunk.length = 238)
    : IqPacket.samples (chunkPacket sequence chunk) = chunk.map sampleValue := by
  have h := pairsFrom_iqBytes chunk
    ([sequence.extractLsb' 24 8, sequence.extractLsb' 16 8, sequence.extractLsb' 8 8,
      sequence.extractLsb' 0 8] ++ List.replicate 8 0 ++ [0, 24, 0, 238]) []
  rw [hchunk, List.append_nil] at h
  rw [IqPacket.samples, samplesPerFrame_chunkPacket]
  exact h

theorem received_chunkPacket (sequence : BitVec 32) {chunk : List Sample} (hchunk : chunk.length = 238)
    : (received (chunkPacket sequence chunk)).length = 1444 := by
  have hlen : (chunkPacket sequence chunk).length = 16 + (chunk.flatMap iqBytes).length := by
    rw [chunkPacket, iqPacket, List.length_append]
    rfl
  rw [received, List.length_take, hlen, length_iqBytes, hchunk]
  rfl

theorem word_chunkPacket (sequence : BitVec 32) (chunk : List Sample) (old : Packet)
    : (receive old (chunkPacket sequence chunk)).word 0 = sequence :=
  Packet.append_extract sequence

theorem expectedCalls_append (s : DdcSettings) {ps qs : List IqPair} (hps : ps.length % 2 = 0)
    (action : RxAction)
    : expectedCalls s (ps ++ qs) action = expectedCalls s ps action ++ expectedCalls s qs action := by
  have hinter (f : IqPair → IqPair → List IqCall)
      : interleaved f (ps ++ qs) = interleaved f ps ++ interleaved f qs := by
    induction ps using List.twoStepInduction with
    | nil => rfl
    | singleton p => simp at hps
    | cons_cons p p' ps ih _ =>
      rw [List.length_cons, List.length_cons] at hps
      rw [List.cons_append, List.cons_append, interleaved, ih (by omega), interleaved,
        List.append_assoc]
  cases action with
  | skip => rfl
  | rx1 => exact List.map_append
  | rx2 => exact List.map_append
  | ps => exact hinter _
  | div => exact hinter _

theorem decode_chunkPacket (s : DdcSettings) (action : RxAction) (old : Packet)
    (sequence : BitVec 32) {chunk : List Sample} (hchunk : chunk.length = 238)
    : (IqData.decode s (receive old (chunkPacket sequence chunk)) action).calls
        = expectedCalls s (chunk.map sampleValue) action := by
  have hlen : 16 + 6 * IqPacket.samplesPerFrame (chunkPacket sequence chunk)
      ≤ (received (chunkPacket sequence chunk)).length := by
    rw [received_chunkPacket sequence hchunk, samplesPerFrame_chunkPacket]
  have heven : IqPacket.samplesPerFrame (chunkPacket sequence chunk) % 2 = 0 := by
    rw [samplesPerFrame_chunkPacket]
  rw [← samples_chunkPacket sequence hchunk]
  cases action with
  | skip => rfl
  | rx1 => exact ((IqData.processIqData_exact_iff 0 old _).2 hlen).2
  | rx2 => exact ((IqData.processIqData_exact_iff 1 old _).2 hlen).2
  | ps => exact ((IqData.pairLoop_exact_iff Nat.one_pos (fun _ _ => rfl) old _).2 ⟨hlen, heven⟩).2
  | div =>
    obtain ⟨m, hm, hadd⟩ := IqData.length_divCalls s
    exact ((IqData.pairLoop_exact_iff hm hadd old _).2 ⟨hlen, heven⟩).2

/-- Numbered packets, in whatever buffers, give no sequence error and hand over all samples. -/
theorem iqThreadAll_numbered (s : DdcSettings) (action : RxAction) {chunks : List (List Sample)}
    (hchunks : ∀ c ∈ chunks, c.length = 238) (errors : Nat) (sequence : BitVec 32)
    {packets : List (Packet × List Byte)} (hpackets : packets.map Prod.snd = numbered sequence chunks)
    : iqThreadAll s action ⟨sequence, errors⟩ packets
        = (⟨sequence + BitVec.ofNat 32 chunks.length, errors⟩,
            expectedCalls s (chunks.flatten.map sampleValue) action) := by
  induction chunks generalizing sequence packets with
  | nil =>
    rw [numbered, List.map_eq_nil_iff] at hpackets
    rw [hpackets, iqThreadAll]
    cases action <;> simp [expectedCalls, interleaved]
  | cons c chunks ih =>
    obtain ⟨⟨old, datagram⟩, rest, rfl, hdatagram, hrest⟩ := List.map_eq_cons_iff.1 hpackets
    have hc := hchunks c (List.mem_cons_self ..)
    have heven : (c.map sampleValue).length % 2 = 0 := by rw [List.length_map, hc]
    have hdatagram : datagram = chunkPacket sequence c := hdatagram
    rw [iqThreadAll, iqThread, hdatagram, word_chunkPacket]
    simp only [ne_eq, not_true_eq_false, if_false]
    rw [ih (fun d hd => hchunks d (List.mem_cons_of_mem _ hd)) _ hrest, decode_chunkPacket _ _ _ _ hc,
      List.flatten_cons, List.map_append, expectedCalls_append s heven, sequence_add_one]
    rfl

def Region.InBuffer (r : Region) : Prop := -4096 ≤ r.read ∧ r.read + r.data.length ≤ 131072 - 4096

-- what is in the buffers, and what any transfer puts there
def RxThread.InBuffers (t : RxThread) : Prop :=
  (∀ bs : List Byte, bs.length ≤ 32768 → (t.dma.write bs).InBuffer) ∧ ∀ ddc, (t.iq ddc).InBuffer

theorem RxSystem.Inv.inBuffers {pre : List Byte} {y : RxSystem} {done rest : List Frame}
    (h : y.Inv pre 4686 done rest) : y.thread.InBuffers := by
  constructor
  . intro bs hbs
    have hread := h.read
    have hshort := h.short
    show -4096 ≤ y.thread.dma.read
      ∧ y.thread.dma.read + ((y.thread.dma.data ++ bs).length : Nat) ≤ 131072 - 4096
    rw [List.length_append]
    omega
  . intro ddc
    obtain ⟨chunks, left, hddc⟩ := h.ddc ddc
    have hlow := hddc.readLow
    have hhigh := hddc.readHigh
    have hfew := hddc.few
    unfold Region.InBuffer
    rw [hddc.data, length_iqBytes]
    omega

/--
Whatever the depths of the FIFO are, the program goes on and stays in its buffers; of the samples of the
frames `done` that have been decoded, the thread of a DDC gets a first part, in order and once, and
without a sequence error.
-/
theorem RxSystem.exec_delivers {pre : List Byte} (hpre : RxThread.Preamble pre)
    {frames : List Frame} (hframes : ∀ f ∈ frames, f.Ok) (depths : List Nat)
    : ∃ done rest y,
        frames = done ++ rest
        ∧ exec (start (pre ++ frames.flatMap Frame.bytes)) depths = some y
        ∧ y.thread.AtFrame pre rest y.fifo
        ∧ y.thread.dma.data.length < 2824
        ∧ y.thread.InBuffers
        ∧ ∀ ddc : Channel, 6 ≤ ddc.val →
          ∃ delivered left : List Sample,
            (done.flatMap fun f => f.samples ddc) = delivered ++ left
            ∧ left.length ≤ 4686
            ∧ ∀ (s : DdcSettings) (action : RxAction) (errors : Nat)
                (packets : List (Packet × List Byte)),
                packets.map Prod.snd = y.packets ddc →
                ∃ next, iqThreadAll s action ⟨0, errors⟩ packets
                  = (⟨next, errors⟩, expectedCalls s (delivered.map sampleValue) action) := by
  obtain ⟨done, rest, y, hsplit, hexec, hinv⟩ := exec_inv hpre (inv_start hframes) depths
  rw [List.nil_append] at hinv
  refine ⟨done, rest, y, hsplit, hexec, hinv.atFrame, hinv.short, hinv.inBuffers, fun ddc hddc => ?_⟩
  obtain ⟨chunks, left, h⟩ := hinv.ddc ddc
  refine ⟨chunks.flatten, left, h.samples, h.few, fun s action errors packets hpackets => ?_⟩
  rw [(h.posted hddc).1] at hpackets
  exact ⟨_, iqThreadAll_numbered s action h.full errors 0 hpackets⟩

-- frames with one sample of DDC 6 at 48 kHz
def frame48 : Frame where
  rateWord := 1#32 <<< 18
  high := (0, 0, 0)
  words ddc := if ddc = 6 then [⟨(1, 2), (0, 0)⟩] else []

theorem frame48_ok : frame48.Ok := ⟨by decide, by decide, by decide⟩

theorem preamble_zeros : RxThread.Preamble (List.replicate 16 0) where
  words := by decide
  skipped := by decide
  length := by decide
  noHeader i hi h16 := absurd h16 (by rw [List.length_replicate] at hi; omega)

theorem RxSystem.exec_delivers_frame48
    : ∃ y, exec (start (List.replicate 16 0 ++ (List.replicate 600 frame48).flatMap Frame.bytes))
          [512, 1024, 100] = some y
        ∧ y.thread.InBuffers := by
  obtain ⟨_, _, y, _, hexec, _, _, hin, _⟩ := exec_delivers preamble_zeros
    (fun f hf => (List.eq_of_mem_replicate hf).symm ▸ frame48_ok : ∀ f ∈ List.replicate 600 frame48, f.Ok)
    [512, 1024, 100]
  exact ⟨y, hexec, hin⟩

end Receiver

end Saturn
