import Pihpsdr.OldProtocol.Lemmas.OzyFrame

/-!
Which samples reach which part of the program. Each kind of output is a projection `of`, and what
the frames deliver of it is determined group by group.

While receiving without diversity, the samples of the receivers go to `receiver[0]` and
`receiver[1]`; with diversity, the first two of them go to the mixer in pairs; while transmitting
with PureSignal, the two feedback channels go to `pscc` in pairs. The microphone samples are
reduced to a rate of 48000.
-/

namespace OldProtocol

namespace OzyOutput

def iqOf (rx : Nat) : OzyOutput → Option IqSample
  | .iq r s => if r = rx then some s else none
  | _ => none

def diversityOf : OzyOutput → Option (IqSample × IqSample)
  | .diversity main aux => some (main, aux)
  | _ => none

def puresignalOf : OzyOutput → Option (IqSample × IqSample)
  | .puresignal tx rx => some (tx, rx)
  | _ => none

def micOf : OzyOutput → Option Int
  | .mic sample => some sample
  | _ => none

end OzyOutput

-- the sample of receiver `r` in a group
def OzyGroup.sample (r : Nat) (g : OzyGroup) : Option IqSample := g.iq[r]?.map iqValue

-- the samples of the receivers `a` and `b`
def OzyGroup.pair (a b : Nat) (g : OzyGroup) : Option (IqSample × IqSample) :=
  match g.sample a, g.sample b with
  | some x, some y => some (x, y)
  | _, _ => none

def allGroups {n : Nat} (fs : List (OzyFrame n)) : List OzyGroup := fs.flatMap OzyFrame.groups

def OzyEnv.Receiving (e : OzyEnv) : Prop :=
  (e.transmitting = false ∨ e.duplex = true) ∧ e.diversityEnabled = false

def OzyEnv.ReceivingDiversity (e : OzyEnv) : Prop :=
  e.transmitting = false ∧ e.diversityEnabled = true

def OzyEnv.TransmittingPuresignal (e : OzyEnv) : Prop :=
  e.transmitting = true ∧ e.puresignal = true

variable (env : Nat → OzyEnv)

section

variable {β : Type} (of : OzyOutput → Option β)

theorem filterMap_deliverMic (hof : ∀ x, of (.mic x) = none) (e : OzyEnv) (x : Int) (k : OzySink)
    : (deliverMic e x k).2.filterMap of = [] := by
  unfold deliverMic
  dsimp only
  split
  . simp [hof]
  . rfl

variable {n : Nat} (spec : OzyGroup → Option β)

theorem filterMap_deliverGroups
    (hgroup : ∀ t k g, g.iq.length = n →
      (deliverSamples env t 0 g.iq k).2.filterMap of
        ++ (deliverMic (env (t + n * 6 + 1)) g.mic.toInt
            (deliverSamples env t 0 g.iq k).1).2.filterMap of = (spec g).toList)
    (t : Nat) (gs : List OzyGroup) (hgs : ∀ g ∈ gs, g.iq.length = n) (k : OzySink)
    : (deliverGroups env n t gs k).2.filterMap of = gs.filterMap spec := by
  induction gs generalizing t k with
  | nil => rfl
  | cons g gs ih =>
    have hg := hgroup t k g (hgs g List.mem_cons_self)
    rw [deliverGroups_cons]
    dsimp only
    rw [List.filterMap_append, List.filterMap_append, hg]
    rw [ih _ (fun g hg => hgs g (List.mem_cons_of_mem _ hg))]
    cases hs : spec g with
    | none => rw [List.filterMap_cons_none hs, Option.toList_none, List.nil_append]
    | some x => rw [List.filterMap_cons_some hs, Option.toList_some, List.singleton_append]

theorem filterMap_deliverFrames (hof : ∀ c, of (.control c) = none)
    (hgroup : ∀ t k g, g.iq.length = n →
      (deliverSamples env t 0 g.iq k).2.filterMap of
        ++ (deliverMic (env (t + n * 6 + 1)) g.mic.toInt
            (deliverSamples env t 0 g.iq k).1).2.filterMap of = (spec g).toList)
    (t : Nat) (fs : List (OzyFrame n)) (k : OzySink)
    : (deliverFrames env t fs k).2.filterMap of = (allGroups fs).filterMap spec := by
  induction fs generalizing t k with
  | nil => rfl
  | cons f fs ih =>
    have hf := filterMap_deliverGroups env of spec hgroup (t + 8) f.groups f.length_iq k
    simp only [deliverFrames, List.cons_append, List.filterMap_append, hof,
      List.filterMap_cons_none, hf, ih, allGroups, List.flatMap_cons]

end

theorem getElem?_cons_sub {α : Type} {s : α} {l : List α} {r c : Nat} (h : r < c)
    : (s :: l)[c - r]? = l[c - (r + 1)]? := by
  have hsub : c - r = c - (r + 1) + 1 := by omega
  rw [hsub, List.getElem?_cons_succ]

-- Only the sample of receiver `rx` may be handed over, `P` says whether it is.
theorem iqOf_deliverSamples (rx : Nat) (P : Prop) [Decidable P]
    (hof : ∀ t (r : Nat) s k, (deliverSample (env t) r s k).2.filterMap (OzyOutput.iqOf rx) =
      if r = rx ∧ P then [s] else [])
    (t r : Nat) (l : List (BitVec 24 × BitVec 24)) (k : OzySink)
    : (deliverSamples env t r l k).2.filterMap (OzyOutput.iqOf rx) =
        if r ≤ rx ∧ P then (l[rx - r]?.map iqValue).toList else [] := by
  induction l generalizing t r k with
  | nil => simp [deliverSamples]
  | cons s l ih =>
    simp only [deliverSamples, List.filterMap_append, hof, ih]
    by_cases heq : r = rx
    . have hgt : ¬ rx + 1 ≤ rx := by omega
      simp [heq, hgt]
    . have hle : r + 1 ≤ rx ↔ r ≤ rx := by omega
      simp only [heq, hle, false_and, if_false, List.nil_append]
      split
      next h => rw [getElem?_cons_sub (by omega)]
      . rfl

theorem filterMap_iqOf_deliverPuresignal (e : OzyEnv) (rx : Nat) (r : Int) (s : IqSample)
    (k : OzySink)
    : (deliverPuresignal e r s k).2.filterMap (OzyOutput.iqOf rx) = [] := by
  unfold deliverPuresignal
  split
  . dsimp only
    split
    . rfl
    . rfl
  . rfl

theorem filterMap_iqOf_deliverSample (e : OzyEnv) (rx : Nat) (r : Int) (s : IqSample)
    (k : OzySink)
    : (deliverSample e r s k).2.filterMap (OzyOutput.iqOf rx) =
        (deliverDiversity e r s (deliverPuresignal e r s k).1).2.filterMap (OzyOutput.iqOf rx)
          ++ (deliverReceive e r s).filterMap (OzyOutput.iqOf rx) := by
  simp only [deliverSample, List.filterMap_append, filterMap_iqOf_deliverPuresignal,
    List.nil_append]

theorem iqOf_deliverSample_receiving {e : OzyEnv} (he : e.Receiving) (rx r : Nat) (s : IqSample)
    (k : OzySink)
    : (deliverSample e r s k).2.filterMap (OzyOutput.iqOf rx) =
        if r = rx ∧ (rx = 0 ∨ (rx = 1 ∧ 1 < e.receivers)) then [s] else [] := by
  have ⟨htx, hdiv⟩ := he
  have hreceive : (!e.transmitting || e.duplex) = true := by
    cases htx with
    | inl h => simp [h]
    | inr h => simp [h]
  rw [filterMap_iqOf_deliverSample]
  simp only [deliverDiversity, deliverReceive, hdiv, hreceive, Bool.and_false, Bool.not_false,
    Bool.and_true, if_true, Bool.false_eq_true, if_false, List.filterMap_nil, List.nil_append]
  by_cases h0 : r = 0
  . grind [OzyOutput.iqOf]
  . by_cases h1 : r = 1
    . grind [OzyOutput.iqOf]
    . grind [OzyOutput.iqOf]

theorem iqOf_deliverSample_diversity {e : OzyEnv} (he : e.ReceivingDiversity) (rx r : Nat)
    (s : IqSample) (k : OzySink)
    : (deliverSample e r s k).2.filterMap (OzyOutput.iqOf rx) =
        if r = rx ∧ rx = 1 ∧ 1 < e.receivers then [s] else [] := by
  have ⟨htx, hdiv⟩ := he
  rw [filterMap_iqOf_deliverSample]
  simp only [deliverDiversity, deliverReceive, htx, hdiv, Bool.not_false, Bool.not_true,
    Bool.and_true, Bool.and_false, Bool.true_or, Bool.false_eq_true, if_true, if_false,
    List.filterMap_nil, List.append_nil]
  by_cases h1 : r = 1
  . grind [OzyOutput.iqOf]
  . grind [OzyOutput.iqOf]

theorem deliverSample_diversity {e : OzyEnv} (he : e.ReceivingDiversity) (r : Nat) (s : IqSample)
    (k : OzySink)
    : (deliverSample e r s k).2.filterMap OzyOutput.diversityOf =
          (if r = 1 then [(k.sampleMain, s)] else [])
        ∧ (deliverSample e r s k).1.sampleMain = if r = 0 then s else k.sampleMain := by
  have ⟨htx, hdiv⟩ := he
  simp only [deliverSample, deliverPuresignal, deliverDiversity, deliverReceive, htx, hdiv,
    Bool.not_false, Bool.not_true, Bool.false_and, Bool.and_true, Bool.and_false,
    Bool.false_eq_true, if_true, if_false, List.nil_append, List.append_nil]
  by_cases h0 : r = 0
  . grind [OzyOutput.diversityOf]
  . by_cases h1 : r = 1
    . grind [OzyOutput.diversityOf]
    . grind [OzyOutput.diversityOf]

theorem diversityOf_deliverSamples_of_two_le (henv : ∀ t, (env t).ReceivingDiversity) (t r : Nat)
    (hr : 2 ≤ r) (l : List (BitVec 24 × BitVec 24)) (k : OzySink)
    : (deliverSamples env t r l k).2.filterMap OzyOutput.diversityOf = [] := by
  induction l generalizing t r k with
  | nil => rfl
  | cons s l ih =>
    have hs := (deliverSample_diversity (henv (t + 5)) r (iqValue s) k).1
    rw [if_neg (by omega)] at hs
    simp only [deliverSamples, List.filterMap_append, hs, List.nil_append]
    apply ih
    omega

theorem diversityOf_deliverSamples (henv : ∀ t, (env t).ReceivingDiversity) (t : Nat)
    (g : OzyGroup) (k : OzySink)
    : (deliverSamples env t 0 g.iq k).2.filterMap OzyOutput.diversityOf = (g.pair 0 1).toList := by
  rcases hg : g.iq with _ | ⟨s, _ | ⟨s', l⟩⟩
  . simp [deliverSamples, OzyGroup.pair, OzyGroup.sample, hg]
  . have hs := (deliverSample_diversity (henv (t + 5)) 0 (iqValue s) k).1
    rw [if_neg (by decide)] at hs
    simp only [deliverSamples, List.append_nil, hs, OzyGroup.pair, OzyGroup.sample, hg]
    rfl
  . obtain ⟨hs, hmain⟩ := deliverSample_diversity (henv (t + 5)) 0 (iqValue s) k
    have hs' := fun k => (deliverSample_diversity (henv (t + 6 + 5)) 1 (iqValue s') k).1
    have hl := diversityOf_deliverSamples_of_two_le env henv (t + 6 + 6) 2 (Nat.le_refl 2) l
    rw [if_neg (by decide)] at hs
    simp only [if_true] at hmain hs'
    simp only [deliverSamples, List.filterMap_append, Nat.zero_add, Nat.reduceAdd, hs, hs', hl,
      hmain, OzyGroup.pair, OzyGroup.sample, hg]
    rfl

theorem deliverSample_puresignal {e : OzyEnv} (he : e.TransmittingPuresignal)
    (hne : e.stRxfdbk ≠ e.stTxfdbk) (r : Nat) (s : IqSample) (k : OzySink)
    : (deliverSample e r s k).1.sampleRx = (if r = e.stRxfdbk then s else k.sampleRx)
        ∧ (deliverSample e r s k).1.sampleTx = (if r = e.stTxfdbk then s else k.sampleTx)
        ∧ (deliverSample e r s k).2.filterMap OzyOutput.puresignalOf =
            if r + 1 = e.stNumHpsdrReceivers then
              [((deliverSample e r s k).1.sampleTx, (deliverSample e r s k).1.sampleRx)]
            else
              [] := by
  have ⟨htx, hps⟩ := he
  have hreceive : (deliverReceive e r s).filterMap OzyOutput.puresignalOf = [] := by
    unfold deliverReceive
    grind [OzyOutput.puresignalOf]
  simp only [deliverSample, List.filterMap_append, hreceive]
  simp only [deliverPuresignal, deliverDiversity, htx, hps,
    Bool.not_true, Bool.false_and, Bool.and_true, Bool.false_eq_true, if_true, if_false]
  grind [OzyOutput.puresignalOf]

-- the last sample of receiver `c`, `old` if the samples `l` from receiver `r` on have none
def latest (r c : Nat) (l : List (BitVec 24 × BitVec 24)) (old : IqSample) : IqSample :=
  if r ≤ c then (l[c - r]?.map iqValue).getD old else old

theorem latest_nil (r c : Nat) (old : IqSample) : latest r c [] old = old := by
  simp [latest]

theorem latest_cons (r c : Nat) (s : BitVec 24 × BitVec 24) (l : List (BitVec 24 × BitVec 24))
    (old : IqSample)
    : latest r c (s :: l) old = latest (r + 1) c l (if r = c then iqValue s else old) := by
  unfold latest
  by_cases heq : r = c
  . have hgt : ¬ c + 1 ≤ c := by omega
    simp [heq, hgt]
  . have hle : r + 1 ≤ c ↔ r ≤ c := by omega
    simp only [heq, hle, if_false]
    split
    next h => rw [getElem?_cons_sub (by omega)]
    . rfl

theorem puresignalOf_deliverSamples {n a b : Nat} (henv : ∀ t, (env t).TransmittingPuresignal)
    (hn : ∀ t, (env t).stNumHpsdrReceivers = n) (ha : ∀ t, (env t).stRxfdbk = a)
    (hb : ∀ t, (env t).stTxfdbk = b) (hab : a ≠ b) (t r : Nat)
    (l : List (BitVec 24 × BitVec 24)) (hr : r + l.length = n) (hl : l ≠ []) (k : OzySink)
    : (deliverSamples env t r l k).2.filterMap OzyOutput.puresignalOf =
        [(latest r b l k.sampleTx, latest r a l k.sampleRx)] := by
  induction l generalizing t r k with
  | nil => contradiction
  | cons s l ih =>
    have ⟨hrx, htx, hs⟩ :=
      deliverSample_puresignal (henv (t + 5)) (by rw [ha, hb]; exact hab) r (iqValue s) k
    rw [hrx, htx, ha, hb, hn] at hs
    rw [ha] at hrx
    rw [hb] at htx
    simp only [deliverSamples, List.filterMap_append, hs, latest_cons]
    rw [List.length_cons] at hr
    cases l with
    | nil =>
      have hlast : r + 1 = n := hr
      simp [hlast, deliverSamples, latest_nil]
    | cons s' l' =>
      rw [List.length_cons] at hr
      rw [if_neg (by omega), List.nil_append]
      rw [ih (t + 6) (r + 1) (by rw [List.length_cons]; omega) (by simp), hrx, htx]

-- every `d`-th element, `c` of them having been skipped before
def everyNth {α : Type} (d : Nat) : Nat → List α → List α
  | _, [] => []
  | c, x :: l => if c + 1 = d then x :: everyNth d 0 l else everyNth d (c + 1) l

theorem getElem?_everyNth {α : Type} {d : Nat} (c : Nat) (hc : c < d) (l : List α) (i : Nat)
    : (everyNth d c l)[i]? = l[(i + 1) * d - 1 - c]? := by
  induction l generalizing c i with
  | nil => simp [everyNth]
  | cons x l ih =>
    rw [everyNth]
    have hmul : (i + 1) * d = i * d + d := Nat.succ_mul i d
    split
    next h =>
      cases i with
      | zero =>
        have hzero : (0 + 1) * d - 1 - c = 0 := by omega
        rw [hzero]
        rfl
      | succ i =>
        have hmul' : (i + 1) * d = i * d + d := Nat.succ_mul i d
        have hsucc : (i + 1 + 1) * d - 1 - c = ((i + 1) * d - 1 - 0) + 1 := by omega
        rw [List.getElem?_cons_succ, ih 0 (by omega), hsucc, List.getElem?_cons_succ]
    next h =>
      have hsucc : (i + 1) * d - 1 - c = ((i + 1) * d - 1 - (c + 1)) + 1 := by omega
      rw [ih (c + 1) (by omega), hsucc, List.getElem?_cons_succ]

theorem everyNth_append {α : Type} {d : Nat} (c : Nat) (hc : c < d) (l l' : List α)
    : everyNth d c (l ++ l') = everyNth d c l ++ everyNth d ((c + l.length) % d) l' := by
  induction l generalizing c with
  | nil => simp [everyNth, Nat.mod_eq_of_lt hc]
  | cons x l ih =>
    simp only [List.cons_append, everyNth, List.length_cons]
    split
    next h =>
      have hwrap : c + (l.length + 1) = 0 + l.length + d := by omega
      rw [ih 0 (by omega), List.cons_append, hwrap, Nat.add_mod_right]
    next h =>
      rw [ih (c + 1) (by omega), Nat.add_right_comm, Nat.add_assoc]

theorem micOf_deliverSample (e : OzyEnv) (r : Int) (s : IqSample) (k : OzySink)
    : (deliverSample e r s k).2.filterMap OzyOutput.micOf = []
        ∧ (deliverSample e r s k).1.micSamples = k.micSamples := by
  simp only [deliverSample, List.filterMap_append]
  simp only [deliverPuresignal, deliverDiversity, deliverReceive]
  grind [OzyOutput.micOf]

theorem micOf_deliverSamples (t r : Nat) (l : List (BitVec 24 × BitVec 24)) (k : OzySink)
    : (deliverSamples env t r l k).2.filterMap OzyOutput.micOf = []
        ∧ (deliverSamples env t r l k).1.micSamples = k.micSamples := by
  induction l generalizing t r k with
  | nil => exact ⟨rfl, rfl⟩
  | cons s l ih =>
    have ⟨hout, hk⟩ := micOf_deliverSample (env (t + 5)) r (iqValue s) k
    have ⟨houts, hks⟩ := ih (t + 6) (r + 1) (deliverSample (env (t + 5)) r (iqValue s) k).1
    simp only [deliverSamples, List.filterMap_append]
    rw [hout, houts, hks, hk]
    exact ⟨rfl, rfl⟩

section

variable {d : Nat} (hd : ∀ t, (env t).micSampleDivisor = d) (hlt : d < 2 ^ 31)

include hd hlt

theorem micOf_deliverMic (t c : Nat) (hc : c < d) (x : Int) (k : OzySink) (hk : k.micSamples = c)
    : (deliverMic (env t) x k).2.filterMap OzyOutput.micOf = everyNth d c [x]
        ∧ (deliverMic (env t) x k).1.micSamples = ((c + 1) % d : Nat) := by
  unfold deliverMic
  rw [hd, hk, incr_of_lt (by omega)]
  simp only [everyNth]
  cases Nat.lt_or_eq_of_le (Nat.succ_le_of_lt hc) with
  | inl h =>
    rw [if_neg (by omega), if_neg (by omega), Nat.mod_eq_of_lt h]
    exact ⟨rfl, rfl⟩
  | inr h =>
    rw [if_pos (by omega), if_pos h, ← Nat.succ_eq_add_one, h, Nat.mod_self]
    exact ⟨rfl, rfl⟩

theorem micOf_deliverGroups (n t c : Nat) (hc : c < d) (gs : List OzyGroup) (k : OzySink)
    (hk : k.micSamples = c)
    : (deliverGroups env n t gs k).2.filterMap OzyOutput.micOf
          = everyNth d c (gs.map (fun g => g.mic.toInt))
        ∧ (deliverGroups env n t gs k).1.micSamples = ((c + gs.length) % d : Nat) := by
  induction gs generalizing t c k with
  | nil => exact ⟨rfl, by simpa [deliverGroups, Nat.mod_eq_of_lt hc] using hk⟩
  | cons g gs ih =>
    obtain ⟨hs, hks⟩ := micOf_deliverSamples env t 0 g.iq k
    obtain ⟨hm, hkm⟩ :=
      micOf_deliverMic env hd hlt (t + n * 6 + 1) c hc g.mic.toInt _ (hks.trans hk)
    obtain ⟨hgs, hkgs⟩ :=
      ih (t + (n * 6 + 2)) ((c + 1) % d) (Nat.mod_lt _ (by omega)) _ hkm
    have hcons : everyNth d c (g.mic.toInt :: gs.map (fun g => g.mic.toInt)) =
        everyNth d c [g.mic.toInt] ++ everyNth d ((c + 1) % d) (gs.map (fun g => g.mic.toInt)) :=
      everyNth_append c hc [g.mic.toInt] _
    rw [deliverGroups_cons]
    simp only [List.filterMap_append, hs, hm, hgs, hkgs, List.map_cons, hcons, List.nil_append,
      List.length_cons, Nat.mod_add_mod]
    rw [Nat.add_right_comm, Nat.add_assoc]
    simp

theorem micOf_deliverFrames {n : Nat} (t c : Nat) (hc : c < d) (fs : List (OzyFrame n))
    (k : OzySink) (hk : k.micSamples = c)
    : (deliverFrames env t fs k).2.filterMap OzyOutput.micOf
        = everyNth d c ((allGroups fs).map (fun g => g.mic.toInt)) := by
  induction fs generalizing t c k with
  | nil => rfl
  | cons f fs ih =>
    have ⟨hf, hkf⟩ := micOf_deliverGroups env hd hlt n (t + 8) c hc f.groups k hk
    have hfs := ih (t + 512) ((c + f.groups.length) % d) (Nat.mod_lt _ (by omega)) _ hkf
    have hcontrol : OzyOutput.micOf (.control f.control) = none := rfl
    rw [allGroups, List.flatMap_cons, List.map_append, everyNth_append c hc, List.length_map]
    rw [deliverFrames_cons]
    dsimp only
    rw [List.cons_append, List.filterMap_cons_none hcontrol, List.filterMap_append]
    rw [hf, hfs, allGroups]

end

section

variable {n : Nat}

-- `P` says when the samples of receiver `rx` are handed over.
theorem iqOf_deliverFrames (rx : Nat) (P : Prop) [Decidable P]
    (hof : ∀ t (r : Nat) s k, (deliverSample (env t) r s k).2.filterMap (OzyOutput.iqOf rx) =
      if r = rx ∧ P then [s] else [])
    (t : Nat) (fs : List (OzyFrame n)) (k : OzySink)
    : (deliverFrames env t fs k).2.filterMap (OzyOutput.iqOf rx) =
        if P then (allGroups fs).filterMap (OzyGroup.sample rx) else [] := by
  rw [filterMap_deliverFrames env _ (fun g => if P then g.sample rx else none) (fun _ => rfl)]
  . by_cases hP : P
    . simp [hP]
    . simp [hP]
  . intro t k g hg
    rw [iqOf_deliverSamples env rx P hof, filterMap_deliverMic _ (fun _ => rfl)]
    by_cases hP : P
    . simp [hP, OzyGroup.sample]
    . simp [hP]

theorem diversityOf_deliverFrames (henv : ∀ t, (env t).ReceivingDiversity) (t : Nat)
    (fs : List (OzyFrame n)) (k : OzySink)
    : (deliverFrames env t fs k).2.filterMap OzyOutput.diversityOf
        = (allGroups fs).filterMap (OzyGroup.pair 0 1) := by
  apply filterMap_deliverFrames env _ _ (fun _ => rfl)
  intro t k g hg
  rw [diversityOf_deliverSamples env henv, filterMap_deliverMic _ (fun _ => rfl), List.append_nil]

theorem puresignalOf_deliverFrames {a b : Nat} (henv : ∀ t, (env t).TransmittingPuresignal)
    (hn : ∀ t, (env t).stNumHpsdrReceivers = n) (ha : ∀ t, (env t).stRxfdbk = a)
    (hb : ∀ t, (env t).stTxfdbk = b) (hab : a < b) (hbn : b < n) (t : Nat)
    (fs : List (OzyFrame n)) (k : OzySink)
    : (deliverFrames env t fs k).2.filterMap OzyOutput.puresignalOf
        = (allGroups fs).filterMap (OzyGroup.pair b a) := by
  apply filterMap_deliverFrames env _ _ (fun _ => rfl)
  intro t k g hg
  have hne : g.iq ≠ [] := by
    intro h
    rw [h, List.length_nil] at hg
    omega
  rw [filterMap_deliverMic _ (fun _ => rfl), List.append_nil]
  rw [puresignalOf_deliverSamples env henv hn ha hb (by omega) t 0 g.iq (by omega) hne]
  have ha : a < g.iq.length := by omega
  have hb : b < g.iq.length := by omega
  simp [latest, OzyGroup.pair, OzyGroup.sample, ha, hb]

end

-- The variables `st_*` belong to the settings `c`.
def OzyEnv.Loaded (c : ReceiverSettings) (e : OzyEnv) : Prop :=
  e.stNumHpsdrReceivers = howManyReceivers c
    ∧ e.stRxfdbk = rxFeedbackChannel c.device c.anan10E
    ∧ e.stTxfdbk = txFeedbackChannel c.device c.anan10E

/--
Whatever the settings are at each byte, the machine is back in `sync0` after each frame and hands
over what `deliverFrames` says. While the program stays in one of its modes, that is all samples of
the receivers the mode is about, in order, and each `micSampleDivisor`-th microphone sample.
-/
theorem processOzyBytes_delivers (c : ReceiverSettings) (henv : ∀ t, (env t).Loaded c)
    (p : OzyParser) (hp : p.state = .sync0) (fs : List (OzyFrame (howManyReceivers c)))
    : let run := processOzyBytes env 0 p (fs.flatMap OzyFrame.bytes)
      run.1.state = .sync0
        ∧ run.2 = (deliverFrames env 0 fs p.sink).2
        ∧ (∀ receivers rx, (∀ t, (env t).Receiving ∧ (env t).receivers = receivers) →
            run.2.filterMap (OzyOutput.iqOf rx) =
              if rx = 0 ∨ (rx = 1 ∧ 1 < receivers) then
                (allGroups fs).filterMap (OzyGroup.sample rx)
              else
                [])
        ∧ ((∀ t, (env t).ReceivingDiversity) →
            run.2.filterMap OzyOutput.diversityOf
              = (allGroups fs).filterMap (OzyGroup.pair 0 1))
        ∧ (∀ receivers rx, (∀ t, (env t).ReceivingDiversity ∧ (env t).receivers = receivers) →
            run.2.filterMap (OzyOutput.iqOf rx) =
              if rx = 1 ∧ 1 < receivers then
                (allGroups fs).filterMap (OzyGroup.sample rx)
              else
                [])
        ∧ (c.puresignal = true → (∀ t, (env t).TransmittingPuresignal) →
            run.2.filterMap OzyOutput.puresignalOf
              = (allGroups fs).filterMap
                  (OzyGroup.pair (txFeedbackChannel c.device c.anan10E)
                    (rxFeedbackChannel c.device c.anan10E)))
        ∧ (∀ d k : Nat, (∀ t, (env t).micSampleDivisor = d) → d < 2 ^ 31 →
            p.sink.micSamples = k → k < d →
            ∀ i, (run.2.filterMap OzyOutput.micOf)[i]?
              = ((allGroups fs).map (fun g => g.mic.toInt))[(i + 1) * d - 1 - k]?) := by
  have ⟨p', hrun, hp', _⟩ :=
    processOzyBytes_frames env (fun t => (henv t).1) (howManyReceivers_le c)
      (howManyReceivers_pos c) 0 p fs hp
  rw [hrun]
  refine ⟨hp', rfl, ?_, ?_, ?_, ?_, ?_⟩
  . intro receivers rx hmode
    apply iqOf_deliverFrames
    intro t r s k
    rw [iqOf_deliverSample_receiving (hmode t).1, (hmode t).2]
  . intro hmode
    apply diversityOf_deliverFrames env hmode
  . intro receivers rx hmode
    apply iqOf_deliverFrames
    intro t r s k
    rw [iqOf_deliverSample_diversity (hmode t).1, (hmode t).2]
  . intro hps hmode
    apply puresignalOf_deliverFrames env hmode
    . intro t
      exact (henv t).1
    . intro t
      exact (henv t).2.1
    . intro t
      exact (henv t).2.2
    . apply rxFeedbackChannel_lt_txFeedbackChannel
    . apply txFeedbackChannel_lt c hps
  . intro d k hd hlt hk hkd i
    rw [micOf_deliverFrames env hd hlt 0 k hkd fs p.sink hk, getElem?_everyNth k hkd]

def silentFrame (n : Nat) : OzyFrame n where
  control := Vector.replicate 5 0
  groups := List.replicate (504 / (n * 6 + 2)) ⟨List.replicate n (0, 0), 0⟩
  length_groups := List.length_replicate
  length_iq := by
    intro g hg
    rw [List.eq_of_mem_replicate hg]
    exact List.length_replicate

-- one receiver, the I/Q data coming with a rate of 96000
def singleReceiver : ReceiverSettings where
  device := .hermes
  anan10E := false
  receivers := 1
  diversityEnabled := false
  puresignal := false
  receivers_eq := receivers_one

def singleReceiverEnv : OzyEnv where
  transmitting := false
  puresignal := false
  diversityEnabled := false
  duplex := false
  receivers := 1
  micSampleDivisor := 2
  stNumHpsdrReceivers := 1
  stRxfdbk := 2
  stTxfdbk := 3

theorem processOzyBytes_delivers_silentFrame
    : let run := processOzyBytes (fun _ => singleReceiverEnv) 0 .init
        (silentFrame (howManyReceivers singleReceiver)).bytes
      run.1.state = .sync0 ∧ run.2.filterMap (OzyOutput.iqOf 0) = List.replicate 63 (0, 0) := by
  have ⟨hstate, _, hiq, _⟩ :=
    processOzyBytes_delivers (fun _ => singleReceiverEnv) singleReceiver
      (fun _ => ⟨rfl, rfl, rfl⟩) .init rfl [silentFrame (howManyReceivers singleReceiver)]
  rw [List.flatMap_singleton] at hstate hiq
  refine ⟨hstate, ?_⟩
  have h0 := hiq 1 0 (fun _ => ⟨⟨.inl rfl, rfl⟩, rfl⟩)
  rw [if_pos (.inl rfl)] at h0
  have hgroups :
      (allGroups [silentFrame (howManyReceivers singleReceiver)]).filterMap (OzyGroup.sample 0)
        = List.replicate 63 (0, 0) := by
    decide +kernel
  rw [← hgroups]
  exact h0

-- All samples of all receivers and all microphone samples are handed over.
def DeliversAll {n : Nat} (p : OzyParser) (fs : List (OzyFrame n)) : Prop :=
  let run := processOzyBytes env 0 p (fs.flatMap OzyFrame.bytes)
  run.1.state = .sync0
    ∧ (∀ rx < n, run.2.filterMap (OzyOutput.iqOf rx) =
        (allGroups fs).filterMap (OzyGroup.sample rx))
    ∧ run.2.filterMap OzyOutput.micOf = (allGroups fs).map (fun g => g.mic.toInt)

theorem not_deliversAll_96000
    : ¬ ∀ (c : ReceiverSettings) (env : Nat → OzyEnv), (∀ t, (env t).Loaded c) →
        ∀ p : OzyParser, p.state = .sync0 →
          ∀ fs : List (OzyFrame (howManyReceivers c)), DeliversAll env p fs := by
  intro h
  have ⟨_, _, hmic⟩ :=
    h singleReceiver (fun _ => singleReceiverEnv) (fun _ => ⟨rfl, rfl, rfl⟩) .init rfl
      [silentFrame (howManyReceivers singleReceiver)]
  have ⟨p', hrun, _⟩ :=
    processOzyBytes_frames (n := howManyReceivers singleReceiver) (fun _ => singleReceiverEnv)
      (fun _ => rfl) (howManyReceivers_le singleReceiver)
      (howManyReceivers_pos singleReceiver) 0 .init
      [silentFrame (howManyReceivers singleReceiver)] rfl
  rw [hrun, micOf_deliverFrames (d := 2) _ (fun _ => rfl) (by decide) 0 0 (by decide) _ _ rfl]
    at hmic
  have hlen := congrArg List.length hmic
  revert hlen
  decide +kernel

end OldProtocol
