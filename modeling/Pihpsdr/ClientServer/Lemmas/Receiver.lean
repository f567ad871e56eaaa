import Pihpsdr.ClientServer.Impl.Receiver
import Pihpsdr.ClientServer.Lemmas.Wire

/-!
What a peer stores for an ADC. Only the antenna with the number zero arrives.
-/

namespace ClientServer

theorem store_sendAdcData_transferred_iff {stack : AdcData} {adc : Fin 3 → Adc} {i : Fin 3}
    (h : (adc i).InWireRange AdcInt.wire) (peer : Peer) (old : Adc)
    : (adc i).Transferred ((sendAdcData stack adc i).store peer old)
        ↔
      (∀ f ∈ AdcInt.unread peer, old.int f = (adc i).int f)
        ∧ (∀ g ∈ AdcDouble.unread peer, Reproduces ((adc i).double g) (old.double g))
        ∧ (adc i).int .antenna = 0 := by
  have hunset : [AdcInt.overload] ⊆ AdcInt.unread peer := by
    cases peer <;> decide
  have hantenna : ((sendAdcData stack adc i).toPacket.store (AdcInt.unread peer)
      (AdcDouble.unread peer) old).int .antenna = (adc i).int .antenna := by
    apply Packet.int_store_fill (h.int .antenna)
    . cases peer <;> decide
    . decide
  have hread : (adc i).Transferred ((sendAdcData stack adc i).toPacket.store (AdcInt.unread peer)
        (AdcDouble.unread peer) old)
      ↔ (∀ f ∈ AdcInt.unread peer, old.int f = (adc i).int f)
        ∧ ∀ g ∈ AdcDouble.unread peer, Reproduces ((adc i).double g) (old.double g) :=
    Packet.transferred_store_fill_iff h hunset
  have hbyte : from16Byte ((sendAdcData stack adc i).int .antenna)
      = from16Byte (to8 ((adc i).int .antenna)) := by
    apply congrArg from16Byte
    simp only [sendAdcData, Packet.fill]
    rw [fillInts_eq (by decide)]
    rfl
  rw [AdcData.store, Record.transferred_update_iff hantenna, hread, hbyte,
    from16Byte_to8_eq_iff (h.int .antenna), and_assoc]

theorem infoAdc_sendAdcData (peer : Peer) (stack : AdcData) (adc other : Fin 3 → Adc) (i : Fin 3)
    : infoAdc peer other (sendAdcData stack adc i)
        =
      some (Function.update other i ((sendAdcData stack adc i).store peer (other i))) := by
  have hindex : (sendAdcData stack adc i).adc.toNat = i := by
    apply toNat_to8
    omega
  have hlt : (sendAdcData stack adc i).adc.toNat < 3 := by omega
  have hfin : (⟨(sendAdcData stack adc i).adc.toNat, hlt⟩ : Fin 3) = i :=
    Fin.ext hindex
  rw [infoAdc, dif_pos hlt, hfin]

theorem infoAdc_transferred_iff {stack : AdcData} {adc : Fin 3 → Adc} {i : Fin 3}
    (h : (adc i).InWireRange AdcInt.wire) (peer : Peer) (other : Fin 3 → Adc)
    : (∃ adc', infoAdc peer other (sendAdcData stack adc i) = some adc'
          ∧ (adc i).Transferred (adc' i))
        ↔
      (∀ f ∈ AdcInt.unread peer, (other i).int f = (adc i).int f)
        ∧ (∀ g ∈ AdcDouble.unread peer, Reproduces ((adc i).double g) ((other i).double g))
        ∧ (adc i).int .antenna = 0 := by
  rw [infoAdc_sendAdcData, ← store_sendAdcData_transferred_iff h]
  constructor
  . intro ⟨adc', hstored, htransferred⟩
    rw [← Option.some.inj hstored, Function.update_self] at htransferred
    exact htransferred
  . intro htransferred
    apply Exists.intro
    apply And.intro rfl
    rw [Function.update_self]
    exact htransferred

end ClientServer

/-!
What the server stores for a `CMD_NOISE` of the client. It never reads the parameters of the
automatic notch filter.
-/

namespace ClientServer

theorem id_sendNoise (stack : NoiseCommand) (id : Fin 8) (rx : Noise)
    : (sendNoise stack id rx).id.toNat = id := by
  apply toNat_to8
  omega

variable {receivers : Fin 9} {receiver : Fin 8 → Noise} {stack : NoiseCommand} {id : Fin 8}
  {rx : Noise}

theorem cmdNoise_sendNoise_running (h : id.val < receivers)
    : cmdNoise receivers receiver (sendNoise stack id rx) id
        =
      (stack.toPacket.fill [] rx).store NoiseInt.unread NoiseDouble.unread (receiver id) := by
  have hid : (sendNoise stack id rx).id.toNat < receivers := by
    rw [id_sendNoise]
    exact h
  have hfin : (⟨(sendNoise stack id rx).id.toNat, by omega⟩ : Fin 8) = id := by
    apply Fin.ext
    apply id_sendNoise stack id rx
  rw [cmdNoise, dif_pos hid]
  simp only [hfin, Function.update_self]
  rfl

theorem cmdNoise_sendNoise_stopped (h : ¬ id.val < receivers)
    : cmdNoise receivers receiver (sendNoise stack id rx) = receiver := by
  rw [cmdNoise, dif_neg]
  rw [id_sendNoise]
  exact h

-- A receiver that does not run on the server is left alone.
theorem cmdNoise_transferred_iff (receivers : Fin 9) (receiver : Fin 8 → Noise)
    (stack : NoiseCommand) (id : Fin 8) (rx : Noise)
    : rx.Transferred (cmdNoise receivers receiver (sendNoise stack id rx) id)
        ↔
      if id.val < receivers then
        (∀ f ∉ NoiseInt.unread, f.wire.InRange (rx.int f))
          ∧ (∀ g ∉ NoiseDouble.unread,
              Reproduces (rx.double g) (fromDouble (toDouble (rx.double g))))
          ∧ (∀ f ∈ NoiseInt.unread, (receiver id).int f = rx.int f)
          ∧ ∀ g ∈ NoiseDouble.unread, Reproduces (rx.double g) ((receiver id).double g)
      else
        rx.Transferred (receiver id) := by
  split
  next h =>
    rw [cmdNoise_sendNoise_running h]
    apply Packet.transferred_store_fill_iff_survives
    apply List.nil_subset
  next h => rw [cmdNoise_sendNoise_stopped h]

-- the default of the number of taps on the server, changed in the menu of the client
def notchNoise (taps : Int) : Noise where
  int
    | .anfTaps => taps
    | _ => 0
  double _ := 0

theorem not_cmdNoise_transferred_taps
    : (notchNoise 128).InWireRange NoiseInt.wire
        ∧ ¬ (notchNoise 128).Transferred (cmdNoise 2 (fun _ => notchNoise 64)
              (sendNoise ⟨⟨fun _ => 0, fun _ => 0⟩, 0⟩ 0 (notchNoise 128)) 0) := by
  constructor
  . constructor
    . intro f
      cases f <;> decide
    . intro g
      norm_num [DoubleInRange, notchNoise]
  . intro h
    have htaps := h.int .anfTaps
    rw [cmdNoise_sendNoise_running (by decide)] at htaps
    simp only [Packet.store] at htaps
    rw [storeInts_kept (by decide)] at htaps
    simp [notchNoise] at htaps

end ClientServer

/-!
What the client stores for a receiver of the server. It never reads the settings of the FM limiter
and of the automatic notch filter.
-/

namespace ClientServer

theorem id_sendRxData {stack : ReceiverData} {rx : Receiver} (h : rx.InWireRange RxInt.wire)
    : from8 ((sendRxData stack rx).int .id) = rx.int .id := by
  have hid := h.int .id
  simp only [sendRxData, Packet.fill]
  rw [fillInts_eq (by decide)]
  apply from8_to8 hid

theorem store_sendRxData_transferred_iff {stack : ReceiverData} {rx : Receiver}
    (h : rx.InWireRange RxInt.wire) (protocol : Int) (rx0 old : Receiver)
    : rx.Transferred ((sendRxData stack rx).store protocol rx0 old)
        ↔
      (∀ f ∈ RxInt.unread, old.int f = rx.int f)
        ∧ (∀ g ∈ RxDouble.unread, Reproduces (rx.double g) (old.double g))
        ∧ (protocol = originalProtocol → rx.int .id = 1
            → rx0.int .sampleRate = rx.int .sampleRate) := by
  have hrate : (Packet.store (sendRxData stack rx) RxInt.unread RxDouble.unread old).int .sampleRate
      = rx.int .sampleRate :=
    Packet.int_store_fill (h.int .sampleRate) (by decide) (by decide)
  have hread : rx.Transferred
        (Packet.store (sendRxData stack rx) RxInt.unread RxDouble.unread old)
      ↔ (∀ f ∈ RxInt.unread, old.int f = rx.int f)
        ∧ ∀ g ∈ RxDouble.unread, Reproduces (rx.double g) (old.double g) :=
    Packet.transferred_store_fill_iff h (by decide)
  rw [ReceiverData.store, id_sendRxData h]
  split
  next hsecond =>
    rw [Record.transferred_update_iff hrate, hread, and_assoc]
    simp only [hsecond, forall_const]
  next hother =>
    rw [hread]
    constructor
    . intro ⟨hint, hdouble⟩
      apply And.intro hint
      apply And.intro hdouble
      intro hprotocol hid
      exact absurd ⟨hprotocol, hid⟩ hother
    . intro ⟨hint, hdouble, _⟩
      apply And.intro hint hdouble

theorem infoReceiver_sendRxData {stack : ReceiverData} {rx rx0 old : Receiver} {id : Fin 8}
    {client : Fin 8 → Option Receiver} (h : rx.InWireRange RxInt.wire) (hid : rx.int .id = id)
    (hfirst : client 0 = some rx0) (hold : client id = some old) (protocol : Int)
    : infoReceiver protocol client (sendRxData stack rx)
        =
      some (Function.update client id
        (some ((sendRxData stack rx).store protocol rx0 old))) := by
  have hfrom : (from8 ((sendRxData stack rx).int .id)).toNat = id := by
    rw [id_sendRxData h, hid]
    rfl
  have hlt : (from8 ((sendRxData stack rx).int .id)).toNat < 8 := by omega
  have hfin : (⟨(from8 ((sendRxData stack rx).int .id)).toNat, hlt⟩ : Fin 8) = id :=
    Fin.ext hfrom
  rw [infoReceiver, dif_pos hlt]
  simp [hfin, hfirst, hold]

theorem infoReceiver_transferred_iff (protocol : Int) (client : Fin 8 → Option Receiver)
    (stack : ReceiverData) (rx rx0 old : Receiver) (id : Fin 8)
    (h : rx.InWireRange RxInt.wire) (hid : rx.int .id = id)
    (hfirst : client 0 = some rx0) (hold : client id = some old)
    : (∃ client' rx', infoReceiver protocol client (sendRxData stack rx) = some client'
          ∧ client' id = some rx' ∧ rx.Transferred rx')
        ↔
      (∀ f ∈ RxInt.unread, old.int f = rx.int f)
        ∧ (∀ g ∈ RxDouble.unread, Reproduces (rx.double g) (old.double g))
        ∧ (protocol = originalProtocol → rx.int .id = 1
            → rx0.int .sampleRate = rx.int .sampleRate) := by
  rw [infoReceiver_sendRxData h hid hfirst hold, ← store_sendRxData_transferred_iff h]
  constructor
  . intro ⟨client', rx', hclient, hrx, htransferred⟩
    rw [← Option.some.inj hclient, Function.update_self] at hrx
    rw [Option.some.inj hrx]
    exact htransferred
  . intro htransferred
    exact ⟨_, _, rfl, Function.update_self .., htransferred⟩

-- the first receiver with the default number of taps of its automatic notch filter
def notchRx : Receiver where
  int
    | .sampleRate => 192000
    | .anfTaps => 64
    | _ => 0
  double _ := 0

theorem notchRx_inWireRange
    : notchRx.InWireRange RxInt.wire := by
  constructor
  . intro f
    cases f
    case multiNotchEnable i => simp [notchRx, RxInt.wire, Wire.InRange]
    all_goals decide
  . intro g
    norm_num [DoubleInRange, notchRx]

theorem infoReceiver_transferred_same_taps
    : ∃ client' rx', infoReceiver 1 (fun _ => some notchRx)
            (sendRxData ⟨fun _ => 0, fun _ => 0⟩ notchRx) = some client'
          ∧ client' 0 = some rx' ∧ notchRx.Transferred rx' := by
  apply (infoReceiver_transferred_iff 1 (fun _ => some notchRx) ⟨fun _ => 0, fun _ => 0⟩
    notchRx notchRx notchRx 0 notchRx_inWireRange rfl rfl rfl).mpr
  apply And.intro (fun _ _ => rfl)
  apply And.intro (fun _ _ => reproduces_zero)
  intro h
  cases h

-- the client starts with a receiver of zeros
theorem not_infoReceiver_transferred_first_taps
    : notchRx.InWireRange RxInt.wire
        ∧ ¬ ∃ client' rx', infoReceiver 1 (fun _ => some ⟨fun _ => 0, fun _ => 0⟩)
                (sendRxData ⟨fun _ => 0, fun _ => 0⟩ notchRx) = some client'
              ∧ client' 0 = some rx' ∧ notchRx.Transferred rx' := by
  apply And.intro notchRx_inWireRange
  intro ⟨client', rx', hclient, hrx, htransferred⟩
  have hid : notchRx.int .id = (0 : Fin 8).val := rfl
  rw [infoReceiver_sendRxData notchRx_inWireRange hid rfl rfl] at hclient
  rw [← Option.some.inj hclient, Function.update_self] at hrx
  rw [← Option.some.inj hrx, store_sendRxData_transferred_iff notchRx_inWireRange] at htransferred
  have htaps := htransferred.1 .anfTaps (by decide)
  simp [notchRx] at htaps

end ClientServer
