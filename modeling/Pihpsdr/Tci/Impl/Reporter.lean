import Pihpsdr.Lib.Run
import Pihpsdr.Radio.State
import Pihpsdr.Tci.Impl.Client

/-!
What `tci_reporter` sends to a client, twice in a second: the items of the state of the radio that differ
from what the client has been told last.
-/

namespace Tci

/-- The state of the radio for the reports. There is a `receiver[v]` for each `v` below `receivers`. -/
structure RadioReading where
  tuning : TuningState
  running : tuning.Running 0
  isTransmitting : Bool
  -- there is a transmitter, with more than 0.01 W forward power
  hasPower : Bool

-- what a client is told, each in a message of its own
inductive Item where
  | dds (v : Fin 2)
  | vfo (v c : Fin 2)
  | modulation (v : Fin 2)
  | rxFilterBand (v : Fin 2)
  | txFrequency
  | splitEnable
  | trx
  deriving DecidableEq

inductive ItemValue where
  | frequency (f : Int)
  | mode (name : String)
  | band (low high : Int)
  | flag (b : Bool)
  deriving DecidableEq

-- the fields `last_fa`, `last_fb` and so on
inductive Shadow where
  | fa
  | fb
  | fx
  | ma
  | mb
  | split
  | mox
  deriving DecidableEq

def Reports.last (p : Reports) : Shadow → Int
  | .fa => p.lastFa
  | .fb => p.lastFb
  | .fx => p.lastFx
  | .ma => p.lastMa
  | .mb => p.lastMb
  | .split => p.lastSplit
  | .mox => p.lastMox

def Reports.setLast (p : Reports) (x : Int) : Shadow → Reports
  | .fa => { p with lastFa := x }
  | .fb => { p with lastFb := x }
  | .fx => { p with lastFx := x }
  | .ma => { p with lastMa := x }
  | .mb => { p with lastMb := x }
  | .split => { p with lastSplit := x }
  | .mox => { p with lastMox := x }

-- what `tci_queue_frame` returns: whether the frame is in the queue
def Client.frameQueued (client : Client) (type : OpCode) (checkRunning : Bool) : Bool :=
  if checkRunning ∧ ¬client.running then
    false
  else if type = .text ∧ client.idleQueued ≥ 100 then
    false
  else
    client.wsi.isSome

def tciModeName (m : Int) : String :=
  if m = modeLsb then "LSB"
  else if m = modeUsb then "USB"
  else if m = modeDsb then "DSB"
  else if m = modeCwl ∨ m = modeCwu then "CW"
  else if m = modeFmn then "FM"
  else if m = modeAm then "AM"
  else if m = modeDigu then "DIGU"
  else if m = 8 then "SPEC"
  else if m = modeDigl then "DIGL"
  else if m = modeSam then "SAM"
  else if m = 11 then "DRM"
  else "USB"

namespace RadioReading

def receivers (r : RadioReading) : Nat :=
  r.tuning.config.receivers

def vfo (r : RadioReading) (v : Fin 2) : VfoState :=
  r.tuning.vfo v

def txFreq (r : RadioReading) : Int :=
  (r.vfo r.tuning.txVfo).dial

-- `rx_filter_band` is only sent for a filter that is in the table, which has 12 modes and 12 filters
def HasFilter (r : RadioReading) (v : Fin 2) : Prop :=
  (0 ≤ (r.vfo v).mode ∧ (r.vfo v).mode < 12) ∧ 0 ≤ (r.vfo v).filter ∧ (r.vfo v).filter < 12

instance (r : RadioReading) (v : Fin 2) : Decidable (r.HasFilter v) := by
  unfold HasFilter
  infer_instance

-- the value of an item as it is written in its message
def value (r : RadioReading) : Item → ItemValue
  | .dds v => .frequency (r.vfo v).dial
  | .vfo v c => .frequency (r.vfo (if v = 0 ∧ c = 0 then 0 else 1)).dial
  | .modulation v => .mode (tciModeName (r.vfo v).mode)
  | .rxFilterBand v =>
    let filter := r.tuning.config.filters (r.vfo v).mode (r.vfo v).filter
    .band filter.low filter.high
  | .txFrequency => .frequency r.txFreq
  | .splitEnable => .flag (decide (r.tuning.txVfo ≠ 0))
  | .trx => .flag r.isTransmitting

-- what the reporter compares with the field of the client
def compared (r : RadioReading) : Shadow → Int
  | .fa => (r.vfo 0).dial
  | .fb => (r.vfo 1).dial
  | .fx => r.txFreq
  | .ma => (r.vfo 0).mode
  | .mb => (r.vfo 1).mode
  | .split => if r.tuning.txVfo ≠ 0 then 1 else 0
  | .mox => if r.isTransmitting then 1 else 0

end RadioReading

-- a client, and for each item the last value that has been put into its queue
structure Feed where
  client : Client
  queued : Item → Option ItemValue

namespace Feed

def last (s : Feed) (k : Shadow) : Int :=
  s.client.reports.last k

def setLast (s : Feed) (k : Shadow) (x : Int) : Feed :=
  { s with client := { s.client with reports := s.client.reports.setLast x k } }

def tciQueueFrame (s : Feed) (type : OpCode) (checkRunning : Bool) : Feed :=
  { s with client := s.client.tciQueueFrame type checkRunning }

-- a text that is not about an item
def sendOther (s : Feed) : Feed :=
  s.tciQueueFrame .text true

def sendOthers : Nat → Feed → Feed
  | 0, s => s
  | n + 1, s => sendOthers n s.sendOther

-- `tci_send_text` with the message for an item
def sendItem (r : RadioReading) (i : Item) (s : Feed) : Feed :=
  { client := s.client.tciQueueFrame .text true
    queued :=
      if s.client.frameQueued .text true then Function.update s.queued i (some (r.value i))
      else s.queued }

def tciSendDds (r : RadioReading) (v : Fin 2) (s : Feed) : Feed :=
  s.sendItem r (.dds v)

def tciSendMox (r : RadioReading) (s : Feed) : Feed :=
  (s.sendItem r .trx).setLast .mox (if r.isTransmitting then 1 else 0)

def tciSendVfo (r : RadioReading) (v c : Fin 2) (s : Feed) : Feed :=
  if v.val ≥ r.receivers then
    s
  else if v = 0 ∧ c = 0 then
    (s.setLast .fa (r.vfo 0).dial).sendItem r (.vfo v c)
  else
    (s.setLast .fb (r.vfo 1).dial).sendItem r (.vfo v c)

def tciSendTxfreq (r : RadioReading) (s : Feed) : Feed :=
  (s.sendItem r .txFrequency).setLast .fx r.txFreq

def tciSendMode (r : RadioReading) (v : Fin 2) (s : Feed) : Feed :=
  if v.val ≥ r.receivers then
    s
  else
    (s.sendItem r (.modulation v)).setLast (if v = 0 then .ma else .mb) (r.vfo v).mode

def tciSendRxFilterBand (r : RadioReading) (v : Fin 2) (s : Feed) : Feed :=
  if v.val ≥ r.receivers then
    s
  else if r.HasFilter v then
    s.sendItem r (.rxFilterBand v)
  else
    s

def tciSendSplit (r : RadioReading) (s : Feed) : Feed :=
  (s.sendItem r .splitEnable).setLast .split (if r.tuning.txVfo ≠ 0 then 1 else 0)

def tciSendRx (r : RadioReading) (v : Fin 2) (s : Feed) : Feed :=
  if v.val ≥ r.receivers then s else s.sendOther.sendOther

def tciSendSmeter (r : RadioReading) (v : Fin 2) (s : Feed) : Feed :=
  if v.val ≥ r.receivers then s else s.sendOther

def tciSendTxSensors (r : RadioReading) (s : Feed) : Feed :=
  if r.isTransmitting ∧ r.hasPower then s.sendOther else s

-- the reports about what a field of the client stands for
def sendFor (r : RadioReading) (s : Feed) : Shadow → Feed
  | .fx => s.tciSendTxfreq r
  | .split => s.tciSendSplit r
  | .mox => s.tciSendMox r
  | .fa => (s.tciSendVfo r 0 0).tciSendDds r 0
  | .fb =>
    let s := s.tciSendVfo r 0 1
    if r.receivers > 1 then
      ((s.tciSendVfo r 1 0).tciSendVfo r 1 1).tciSendDds r 1
    else
      s
  | .ma => (s.tciSendMode r 0).tciSendRxFilterBand r 0
  | .mb =>
    if r.receivers > 1 then
      (s.tciSendMode r 1).tciSendRxFilterBand r 1
    else
      s.setLast .mb (r.vfo 1).mode

-- `if (fx != client->last_fx)`, and so on
def reportChanged (r : RadioReading) (s : Feed) (k : Shadow) : Feed :=
  if r.compared k ≠ s.last k then s.sendFor r k else s

-- the readings of the sensors are sent with every second call
def sendSensors (r : RadioReading) (s : Feed) : Feed :=
  let rx := s.client.reports.rxsensor ∧ s.client.reports.count % 2 = 1
  let tx := s.client.reports.txsensor ∧ s.client.reports.count % 2 = 1
  let s := if rx then (s.tciSendRx r 0).tciSendRx r 1 else s
  let s := if tx then s.tciSendTxSensors r else s
  if rx then
    if r.receivers = 1 then s.tciSendSmeter r 0 else (s.tciSendSmeter r 0).tciSendSmeter r 1
  else
    s

-- the counter for the pings
def countPing (s : Feed) : Feed :=
  let count := s.client.reports.count + 1
  if count ≥ 30 then
    let s := { s with client := { s.client with reports := { s.client.reports with count := 0 } } }
    s.tciQueueFrame .ping false
  else
    { s with client := { s.client with reports := { s.client.reports with count } } }

def radioShadows : List Shadow :=
  [.fx, .split, .mox]

def vfoShadows : List Shadow :=
  [.fa, .fb, .ma, .mb]

def tciReporter (r : RadioReading) (s : Feed) : Feed :=
  if s.client.running then
    let s := radioShadows.foldl (reportChanged r) s.countPing
    vfoShadows.foldl (reportChanged r) (s.sendSensors r)
  else
    { s with client := { s.client with tciTimer := 0 } }

-- in the initial state, what is about one receiver; the others are `if` for each of its channels
def sendReceiverState (r : RadioReading) (v : Fin 2) (s : Feed) : Feed :=
  let s := (((s.tciSendDds r v).sendOthers 2).tciSendVfo r v 0).tciSendVfo r v 1
  (s.tciSendMode r v).tciSendRxFilterBand r v

/--
`n₁`, `n₂` and `n₃` are the numbers of the other messages before the first report, between those of the
receivers and the one of the split, and after the last report.
-/
def tciSendInitialState (r : RadioReading) (n₁ n₂ n₃ : Nat) (s : Feed) : Feed :=
  let s := (s.sendOthers n₁).sendReceiverState r 0
  let s := if r.receivers > 1 then s.sendReceiverState r 1 else s
  (((s.sendOthers n₂).tciSendSplit r).tciSendMox r).sendOthers n₃

-- a frame is written to the connection, which is closed when that fails
def tciLwsWriteQueued (s : Feed) (rc : Int) : Feed :=
  match s.client.popQueue with
  | none => s
  | some (type, client) =>
    let client := { client with idleQueued := client.idleQueued - 1 }
    if type = .close ∨ client.wsi.isNone then
      { s with client }
    else
      { s with client := { client with running := client.running && decide (0 ≤ rc) } }

end Feed

-- `shown` is the state of the radio when it was last sent what is behind a field
structure Watch where
  feed : Feed
  radio : RadioReading
  shown : Shadow → Option RadioReading

inductive WatchEvent where
  -- the state of the radio changes in any way
  | change (radio : RadioReading)
  | tick
  | initialState (n₁ n₂ n₃ : Nat)
  -- other frames, and a change of what the client wants to be sent
  | queueFrame (type : OpCode) (checkRunning : Bool)
  | queueBinaryFrame (len : Nat)
  | sensors (rx tx : Bool)
  | writeable (rc : Int)
  | closed

namespace Watch

def start (client : Client) (session wsi timer : Nat) (radio : RadioReading) : Watch where
  feed :=
    { client :=
        { client.tciInitClient session with
          wsi := some wsi
          lwsTxQueue := some []
          tciTimer := timer }
      queued := fun _ => none }
  radio
  shown _ := none

def setFeed (s : Watch) (feed : Feed) : Watch :=
  { s with feed }

def setClient (s : Watch) (client : Client) : Watch :=
  s.setFeed { s.feed with client }

-- the initial state has no `tx_frequency`, and nothing about the mode of a VFO without a receiver
def initialShows (r : RadioReading) (k : Shadow) : Bool :=
  decide (k ≠ .fx) && (decide (k ≠ .mb) || decide (r.receivers > 1))

def step (s : Watch) : WatchEvent → Watch
  | .change radio => { s with radio }
  | .tick =>
    { s with
      feed := s.feed.tciReporter s.radio
      shown := fun _ => some s.radio }
  | .initialState n₁ n₂ n₃ =>
    if s.feed.client.running then
      { s with
        feed := s.feed.tciSendInitialState s.radio n₁ n₂ n₃
        shown := fun k => if initialShows s.radio k then some s.radio else s.shown k }
    else
      s
  | .queueFrame type checkRunning => s.setFeed (s.feed.tciQueueFrame type checkRunning)
  | .queueBinaryFrame len => s.setClient (s.feed.client.tciQueueBinaryFrame len)
  | .sensors rx tx =>
    s.setClient
      { s.feed.client with
        reports := { s.feed.client.reports with rxsensor := rx, txsensor := tx } }
  | .writeable rc => s.setFeed (s.feed.tciLwsWriteQueued rc)
  | .closed => s.setClient { s.feed.client.tciLwsFreeQueue with running := false, wsi := none }

def run (s : Watch) (es : List WatchEvent) : Watch :=
  Run.exec step s es

end Watch

end Tci
