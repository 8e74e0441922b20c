import KoRTOS.Hal.UsartServing
import KoRTOS.Hal.UsartSides

/-!
# Words that the USART receives

The handler stores each word at most once and in order. Between two words that are
stored, words are lost only when one comes in too early, or when the handler clears
another flag; it reports each flag it clears, so that a lost word leaves a trace.
-/

namespace KoRTOS.Hal

open RegisterBits Accesses UsartProg

/-- What a word becomes in the buffer. -/
def UsartConfig.bytes (config : UsartConfig) (word : U32) : List U8 :=
  if config.Wide then
    [(word.setWidth 16 &&& 0x01FF).setWidth 8, ((word.setWidth 16 &&& 0x01FF) >>> 8).setWidth 8]
  else [word.setWidth 8 &&& config.mask]

def UsartEvent.clearsSr : UsartEvent → Bool
  | .txCmplt | .cts => true
  | _ => false

def UsartEvent.clearsDr : UsartEvent → Bool
  | .idle | .ore | .nf | .fe => true
  | _ => false

/-- The handler cleared a flag before the callback. -/
def UsartEvent.clears (event : UsartEvent) : Bool := event.clearsSr || event.clearsDr

namespace UsartReceiver

variable {receiver : UsartReceiver} {word w : U32} {i : UsartAccess}

/-- What came in was read, or waits, or was lost, and what was read is in order. -/
structure Sound (receiver : UsartReceiver) : Prop where
  ordered : (receiver.read ++ receiver.waiting).Sublist receiver.arrived
  total : receiver.arrived.length =
    receiver.read.length + receiver.waiting.length + receiver.overrun + receiver.cleared

theorem Sound.occur (h : receiver.Sound) : (receiver.occur word).Sound := by
  obtain ⟨hOrdered, hTotal⟩ := h
  unfold UsartReceiver.occur
  split
  · constructor
    · exact hOrdered.trans (List.sublist_append_left _ _)
    · rw [List.length_append, hTotal]
      simp only [waiting, List.length_singleton]
      omega
  · rename_i hRxne
    rw [waiting, if_neg hRxne] at hOrdered hTotal
    rw [List.append_nil] at hOrdered
    constructor
    · exact hOrdered.append (List.Sublist.refl [word])
    · rw [List.length_append, hTotal]
      simp only [waiting, ↓reduceIte, List.length_singleton, List.length_nil]
      omega

theorem Sound.respond (h : receiver.Sound) : (receiver.respond i w).2.Sound := by
  obtain ⟨hOrdered, hTotal⟩ := h
  cases i with
  | readSr => exact ⟨hOrdered, hTotal⟩
  | writeSr value =>
    simp only [UsartReceiver.respond]
    split
    · rename_i hCleared
      obtain ⟨hRxne, -⟩ := Bool.and_eq_true_iff.mp hCleared
      constructor
      · simp only [waiting, Bool.false_eq_true, ↓reduceIte, List.append_nil]
        exact (List.sublist_append_left _ _).trans hOrdered
      · simp only [waiting, hRxne, Bool.false_eq_true, ↓reduceIte, List.length_singleton,
          List.length_nil] at hTotal ⊢
        omega
    · exact ⟨hOrdered, hTotal⟩
  | readDr =>
    constructor
    · simpa [UsartReceiver.respond, waiting] using hOrdered
    · simp only [UsartReceiver.respond, waiting, Bool.false_eq_true, ↓reduceIte, List.length_nil,
        List.length_append] at hTotal ⊢
      omega

end UsartReceiver

namespace Usart

variable {usart : Usart} {receiver : UsartReceiver} {sr dr : Nat} {w word : U32}
  {memory : Nat → U8} {event : UsartEvent}

def storedBytes (usart : Usart) : List U8 := usart.received.stores.map Prod.snd

/-- What the handler read without storing it, or cleared, it has reported, but for `sr` writes to
`SR` and `dr` reads of `DR`. -/
structure Reported (usart : Usart) (sr dr : Nat) (receiver : UsartReceiver) : Prop where
  sound : receiver.Sound
  stored : ∃ words : List U32, usart.storedBytes = words.flatMap usart.config.bytes ∧
    words.Sublist receiver.read ∧
    receiver.read.length ≤ words.length + usart.events.countP UsartEvent.clearsDr + dr
  cleared : receiver.cleared ≤ usart.events.countP UsartEvent.clearsSr + sr

theorem occur_read : (receiver.occur word).read = receiver.read := by
  unfold UsartReceiver.occur
  split <;> rfl

theorem occur_cleared : (receiver.occur word).cleared = receiver.cleared := by
  unfold UsartReceiver.occur
  split <;> rfl

theorem Reported.occur (h : usart.Reported sr dr receiver) :
    usart.Reported sr dr (receiver.occur word) := by
  refine ⟨h.sound.occur, ?_, ?_⟩
  · rw [occur_read]
    exact h.stored
  · rw [occur_cleared]
    exact h.cleared

theorem stable_reported : usartReceiver.Stable (usart.Reported sr dr) := fun _ _ h => h.occur

theorem Reported.writeSr {value : U32} (h : usart.Reported sr dr receiver) :
    usart.Reported (sr + 1) dr (receiver.respond (.writeSr value) w).2 := by
  have hCleared := h.cleared
  refine ⟨h.sound.respond, ?_, ?_⟩
  · have hRead : (receiver.respond (.writeSr value) w).2.read = receiver.read := by
      simp only [UsartReceiver.respond]
      split <;> rfl
    rw [hRead]
    exact h.stored
  · simp only [UsartReceiver.respond]
    split
    · exact Nat.succ_le_succ hCleared
    · omega

theorem length_waiting : receiver.waiting.length ≤ 1 := by
  unfold UsartReceiver.waiting
  split <;> simp

theorem Reported.readDr (h : usart.Reported sr dr receiver) :
    usart.Reported sr (dr + 1) (receiver.respond .readDr w).2 := by
  obtain ⟨words, hBytes, hSublist, hLength⟩ := h.stored
  refine ⟨h.sound.respond, ⟨words, hBytes, ?_, ?_⟩, h.cleared⟩
  · exact hSublist.trans (List.sublist_append_left _ _)
  · have hWaiting : receiver.waiting.length ≤ 1 := length_waiting
    simp only [UsartReceiver.respond, List.length_append]
    omega

theorem Reported.eventCallback {sr' dr' : Nat} (h : usart.Reported sr dr receiver)
    (hSr : sr ≤ sr' + if event.clearsSr then 1 else 0)
    (hDr : dr ≤ dr' + if event.clearsDr then 1 else 0) :
    (usart.eventCallback event).Reported sr' dr' receiver := by
  obtain ⟨words, hBytes, hSublist, hLength⟩ := h.stored
  have hCleared := h.cleared
  refine ⟨h.sound, ⟨words, hBytes, hSublist, ?_⟩, ?_⟩
  · simp only [Usart.eventCallback, List.countP_append, List.countP_singleton]
    omega
  · simp only [Usart.eventCallback, List.countP_append, List.countP_singleton]
    omega

theorem storedBytes_storeWord : (usart.storeWord memory word).storedBytes =
    usart.storedBytes ++ usart.config.bytes word := by
  have hNext : (usart.receiveNext ⟨memory, fun _ => word⟩).storedBytes =
      usart.storedBytes ++ usart.config.bytes word := by
    rw [receiveNext_eq]
    unfold storedBytes afterReceiving UsartConfig.receive UsartConfig.bytes
    split <;> simp [Bus.receiveHalfword, Bus.receiveByte]
  rw [storeWord]
  split
  · exact hNext
  · exact hNext

theorem config_storeWord : (usart.storeWord memory word).config = usart.config := by
  rw [storeWord, receiveNext_eq]
  split <;> rfl

theorem countP_storeWord {p : UsartEvent → Bool} (hRx : p .rxCmplt = false) :
    (usart.storeWord memory word).events.countP p = usart.events.countP p := by
  rw [storeWord, receiveNext_eq]
  split
  · simp [eventCallback, closeReception, afterReceiving, hRx]
  · rfl

theorem Reported.storeWord (h : usart.Reported 0 0 receiver) (hRxne : receiver.rxne = true) :
    (usart.storeWord memory receiver.dr).Reported 0 0 (receiver.respond .readDr w).2 := by
  obtain ⟨words, hBytes, hSublist, hLength⟩ := h.stored
  have hRead : (receiver.respond .readDr w).2.read = receiver.read ++ [receiver.dr] := by
    simp only [UsartReceiver.respond, UsartReceiver.waiting, hRxne, ↓reduceIte]
  refine ⟨h.sound.respond, ⟨words ++ [receiver.dr], ?_, ?_, ?_⟩, ?_⟩
  · rw [storedBytes_storeWord, config_storeWord, hBytes, List.flatMap_append,
      List.flatMap_singleton]
  · rw [hRead]
    exact hSublist.append (List.Sublist.refl _)
  · rw [hRead, countP_storeWord rfl, List.length_append, List.length_append]
    simp only [List.length_singleton]
    omega
  · rw [countP_storeWord rfl]
    exact h.cleared

structure SameReception (usart next : Usart) : Prop where
  config : next.config = usart.config
  received : next.received = usart.received
  events : next.events = usart.events

theorem SameReception.reported {next : Usart} (h : SameReception usart next)
    (hReported : usart.Reported sr dr receiver) : next.Reported sr dr receiver := by
  obtain ⟨words, hBytes, hRest⟩ := hReported.stored
  refine ⟨hReported.sound, ⟨words, ?_, ?_⟩, ?_⟩
  · rw [storedBytes, h.received, h.config]
    exact hBytes
  · rw [h.events]
    exact hRest
  · rw [h.events]
    exact hReported.cleared

theorem checkTxe_same {flags : U32} {bus : Bus} : SameReception usart (checkTxe bus flags usart) := by
  have hNext : SameReception usart (usart.sendNext bus) := by
    rw [sendNext_eq]
    exact ⟨rfl, rfl, rfl⟩
  unfold checkTxe
  split
  · split
    · split <;> dsimp only
      · split
        · exact ⟨hNext.config, hNext.received, hNext.events⟩
        · exact hNext
      · split <;> exact ⟨rfl, rfl, rfl⟩
    · exact ⟨rfl, rfl, rfl⟩
  · exact ⟨rfl, rfl, rfl⟩

abbrev UsartTriple {α : Type} (A : UsartReceiver → Prop) (p : UsartProg α)
    (Q : α → UsartReceiver → Prop) : Prop :=
  usartReceiver.Triple (fun _ _ => True) A p Q

variable {A : UsartReceiver → Prop} {α : Type} {Q : α → UsartReceiver → Prop}

theorem triple_readSr {next : U32 → UsartProg α} (hStable : usartReceiver.Stable A)
    (hNext : ∀ flags : U32, UsartTriple
      (fun receiver => A receiver ∧ (flags.getLsbD usartSrRxne = true → receiver.rxne = true))
      (next flags) Q) :
    UsartTriple A (perform .readSr >>= next) Q := by
  refine Device.Triple.access hStable (fun _ _ => trivial) (C := fun flags receiver =>
    A receiver ∧ (flags.getLsbD usartSrRxne = true → receiver.rxne = true)) ?_ hNext
  intro receiver w h
  refine ⟨h, fun hFlag => ?_⟩
  have hBit : (withBit usartSrRxne receiver.rxne w).getLsbD usartSrRxne = receiver.rxne :=
    getLsbD_withBit_self (by decide)
  exact hBit.symm.trans hFlag

theorem stable_seen {flags : U32} (hStable : usartReceiver.Stable A) : usartReceiver.Stable
    fun receiver => A receiver ∧ (flags.getLsbD usartSrRxne = true → receiver.rxne = true) := by
  rintro word receiver ⟨hA, hSeen⟩
  refine ⟨hStable word receiver hA, fun hFlag => ?_⟩
  change (receiver.occur word).rxne = true
  rw [UsartReceiver.occur, if_pos (hSeen hFlag)]
  exact hSeen hFlag

theorem triple_pure {a : α} (hStable : usartReceiver.Stable (Q a))
    (h : ∀ receiver, A receiver → Q a receiver) : UsartTriple A (pure a) Q :=
  .pure hStable h

theorem triple_clearSr {flag : Nat} : UsartTriple (usart.Reported 0 0) (clearSr flag)
    fun _ => usart.Reported 1 0 := by
  refine triple_readSr stable_reported fun flags => ?_
  refine Device.Triple.access (C := fun _ => usart.Reported 1 0) (stable_seen stable_reported)
    (fun _ _ => trivial) ?_ fun _ => triple_pure stable_reported fun _ => id
  exact fun receiver w h => h.1.writeSr (w := w)

theorem triple_readSrDr : UsartTriple (usart.Reported 0 0) readSrDr
    fun _ => usart.Reported 0 1 := by
  refine triple_readSr stable_reported fun flags => ?_
  refine Device.Triple.access (C := fun _ => usart.Reported 0 1) (stable_seen stable_reported)
    (fun _ _ => trivial) ?_ fun _ => triple_pure stable_reported fun _ => id
  exact fun receiver w h => h.1.readDr (w := w)

theorem triple_check {next : U32 → UsartProg Usart}
    (hNext : ∀ flags, UsartTriple (usart.Reported 0 0) (next flags)
      fun next => next.Reported 0 0) :
    UsartTriple (usart.Reported 0 0) (perform .readSr >>= next) fun next => next.Reported 0 0 :=
  triple_readSr stable_reported fun flags =>
    (hNext flags).consequence (fun _ h => h.1) fun _ _ => id

theorem triple_nothing :
    UsartTriple (usart.Reported 0 0) (pure usart) fun next => next.Reported 0 0 :=
  triple_pure stable_reported fun _ => id

theorem triple_acknowledge {flag : Nat} {next : Usart} (hSame : SameReception usart next)
    (hEvent : event.clearsSr = true) :
    UsartTriple (usart.Reported 0 0) (clearSr flag >>= fun _ => pure (next.eventCallback event))
      fun next => next.Reported 0 0 := by
  refine triple_clearSr.bind fun _ => triple_pure stable_reported fun receiver h => ?_
  exact (hSame.reported h).eventCallback (by rw [if_pos hEvent]) (Nat.zero_le _)

theorem triple_dismiss (hEvent : event.clearsDr = true) :
    UsartTriple (usart.Reported 0 0) (readSrDr >>= fun _ => pure (usart.eventCallback event))
      fun next => next.Reported 0 0 := by
  refine triple_readSrDr.bind fun _ => triple_pure stable_reported fun receiver h => ?_
  exact h.eventCallback (Nat.zero_le _) (by rw [if_pos hEvent])

theorem triple_serveTc : UsartTriple (usart.Reported 0 0) (serveTc usart)
    fun next => next.Reported 0 0 := by
  refine triple_check fun flags => ?_
  split
  · split
    · exact triple_acknowledge ⟨rfl, rfl, rfl⟩ rfl
    · exact triple_nothing
  · exact triple_nothing

theorem triple_serveTxe : UsartTriple (usart.Reported 0 0) (serveTxe memory usart)
    fun next => next.Reported 0 0 :=
  triple_check fun _ => triple_pure stable_reported fun _ h => checkTxe_same.reported h

theorem triple_serveRxne : UsartTriple (usart.Reported 0 0) (serveRxne memory usart)
    fun next => next.Reported 0 0 := by
  have hNothing : ∀ {flags : U32}, UsartTriple
      (fun receiver => usart.Reported 0 0 receiver ∧
        (flags.getLsbD usartSrRxne = true → receiver.rxne = true)) (pure usart)
      fun next => next.Reported 0 0 :=
    triple_nothing.consequence (fun _ h => h.1) fun _ _ => id
  refine triple_readSr stable_reported fun flags => ?_
  split
  · rename_i hBoth
    obtain ⟨hFlag, -⟩ := Bool.and_eq_true_iff.mp hBoth
    split
    · split
      · refine Device.Triple.access (C := fun dr => (usart.storeWord memory dr).Reported 0 0)
          (stable_seen stable_reported) (fun _ _ => trivial) ?_
          fun dr => triple_pure stable_reported fun _ => id
        exact fun receiver w h => h.1.storeWord (w := w) (h.2 hFlag)
      · exact hNothing
    · exact hNothing
  · exact hNothing

theorem triple_serveCts : UsartTriple (usart.Reported 0 0) (serveCts usart)
    fun next => next.Reported 0 0 := by
  refine triple_check fun flags => ?_
  split
  · exact triple_acknowledge ⟨rfl, rfl, rfl⟩ rfl
  · exact triple_nothing

theorem triple_serveByReading {flag enable : Nat} (hEvent : event.clearsDr = true) :
    UsartTriple (usart.Reported 0 0) (serveByReading flag enable event usart)
      fun next => next.Reported 0 0 := by
  refine triple_check fun flags => ?_
  split
  · exact triple_dismiss hEvent
  · exact triple_nothing

theorem triple_serveErrors : UsartTriple (usart.Reported 0 0) (serveErrors usart)
    fun next => next.Reported 0 0 := by
  refine triple_check fun flags => ?_
  split
  · split
    · exact triple_dismiss rfl
    · split
      · exact triple_dismiss rfl
      · exact triple_nothing
  · exact triple_nothing

theorem triple_irqProgram : UsartTriple (usart.Reported 0 0) (irqProgram memory usart)
    fun next => next.Reported 0 0 :=
  triple_serveTc.bind fun _ => triple_serveTxe.bind fun _ => triple_serveRxne.bind fun _ =>
    triple_serveCts.bind fun _ => (triple_serveByReading rfl).bind fun _ =>
      (triple_serveByReading rfl).bind fun _ => triple_serveErrors

def answer (sr dr : U32) : UsartAccess → U32
  | .readSr => sr
  | .writeSr _ => 0
  | .readDr => dr

section Quiet

variable {flags dr : U32} {bus : Bus}

/-- No word comes in during the invocation. -/
def quietVisit (flags : U32) : UsartVisit := ⟨flags, fun _ => false⟩

theorem eval_serveTc :
    (serveTc usart).eval (answer flags dr) = checkTc (quietVisit flags) usart := by
  simp only [serveTc, Prog.eval_bind, Prog.eval_ite, Prog.eval_pure]
  rfl

theorem eval_serveTxe : (serveTxe bus.memory usart).eval (answer flags dr) =
    checkTxe bus flags usart := rfl

theorem eval_serveRxne (hWord : dr = bus.words usart.received.taken) :
    (serveRxne bus.memory usart).eval (answer flags dr) = checkRxne bus flags usart := by
  obtain rfl := hWord
  simp only [serveRxne, Prog.eval_bind, Prog.eval_ite, Prog.eval_pure]
  rfl

theorem eval_checks :
    (serveErrors ((serveOre ((serveIdle ((serveCts usart).eval (answer flags dr))).eval
      (answer flags dr))).eval (answer flags dr))).eval (answer flags dr) =
      checkErrors (quietVisit flags) usart := by
  simp only [serveCts, serveIdle, serveOre, serveByReading, serveErrors, Prog.eval_bind,
    Prog.eval_ite, Prog.eval_pure]
  rfl

/-- If the registers do not change, the handler does what it does with one value of `SR`. -/
theorem eval_irqProgram : (irqProgram bus.memory usart).eval
    (answer flags (bus.words usart.received.taken)) =
      irqHandling bus (quietVisit flags) usart := by
  have hTaken : (checkTxe bus flags (checkTc (quietVisit flags) usart)).received =
      usart.received := by
    rw [checkTxe_same.received, checkTc]
    split
    · split <;> rfl
    · rfl
  simp only [irqProgram, Prog.eval_bind, eval_serveTc, eval_serveTxe]
  rw [eval_serveRxne (by rw [hTaken]), eval_checks]
  rfl

end Quiet

end Usart

namespace UsartRx

variable {rx : UsartRx} {memory : Nat → U8}

/-- Between two invocations all is reported; one that is under way sees to it. -/
def Good (rx : UsartRx) : Prop :=
  match rx.call with
  | none => rx.usart.Reported 0 0 rx.receiver
  | some call => usartReceiver.Achieves (fun _ _ => True) call (fun next => next.Reported 0 0)
      rx.receiver

theorem good_resume {p : UsartProg Usart × UsartReceiver}
    (h : usartReceiver.Achieves (fun _ _ => True) p.1 (fun next => next.Reported 0 0) p.2) :
    (rx.resume p).Good := by
  obtain ⟨call, receiver⟩ := p
  cases call with
  | pure usart => exact h receiver .refl
  | access i next => exact h
  | await i ready next => exact h

theorem sendIt_same {usart : Usart} {p : Nat} {len : U32} :
    usart.SameReception (usart.sendIt p len).1 := by
  unfold Usart.sendIt
  split <;> exact ⟨rfl, rfl, rfl⟩

theorem receiveIt_same {usart : Usart} {p : Nat} {len : U32} :
    usart.SameReception (usart.receiveIt p len).1 := by
  unfold Usart.receiveIt
  split <;> exact ⟨rfl, rfl, rfl⟩

theorem good_idle {receiver : UsartReceiver} {usart : Usart}
    (h : usart.Reported 0 0 receiver) (input : UsartInput) :
    (step memory ⟨receiver, usart, none⟩ input).Good := by
  cases input with
  | arrive word => exact h.occur
  | sendIt p len => exact sendIt_same.reported h
  | receiveIt p len => exact receiveIt_same.reported h
  | control cr1 cr3 =>
    have hSame : usart.SameReception { usart with cr1 := cr1, cr3 := cr3 } := ⟨rfl, rfl, rfl⟩
    exact hSame.reported h
  | interrupt => exact Usart.triple_irqProgram receiver h
  | access flags => exact h

theorem good_call {receiver : UsartReceiver} {usart : Usart} {call : UsartProg Usart}
    (h : usartReceiver.Achieves (fun _ _ => True) call (fun next => next.Reported 0 0) receiver)
    (input : UsartInput) : (step memory ⟨receiver, usart, some call⟩ input).Good := by
  cases input with
  | arrive word => exact h.occur word
  | access flags => exact good_resume (h.advance flags)
  | _ => exact h

theorem good_run (memory : Nat → U8) (h : rx.Good) (inputs : List UsartInput) : (rx.run memory inputs).Good := by
  induction inputs generalizing rx with
  | nil => exact h
  | cons input inputs ih =>
    apply ih
    obtain ⟨receiver, usart, call⟩ := rx
    cases call with
    | none => exact good_idle h input
    | some call => exact good_call h input

theorem good_start (usart : Usart) : (start usart).Good := by
  refine ⟨⟨List.Sublist.refl _, rfl⟩, ⟨[], rfl, List.Sublist.refl _, ?_⟩, ?_⟩
  · exact Nat.zero_le _
  · exact Nat.zero_le _

end UsartRx

theorem countP_clears (events : List UsartEvent) :
    events.countP UsartEvent.clearsSr + events.countP UsartEvent.clearsDr =
      events.countP UsartEvent.clears := by
  induction events with
  | nil => rfl
  | cons event events ih =>
    rw [List.countP_cons, List.countP_cons, List.countP_cons, ← ih]
    cases event <;> simp [UsartEvent.clearsSr, UsartEvent.clearsDr, UsartEvent.clears] <;> omega

/-- In every run, when no invocation of the handler is under way, the buffer holds words that came
in, each once and in order; and a word that is neither stored nor waiting came in while another
waited, or goes with a callback that says that a flag was cleared. -/
theorem usart_words_accounted (memory : Nat → U8) (usart : Usart) (inputs : List UsartInput)
    (hIdle : ((UsartRx.start usart).run memory inputs).call = none) :
    let rx := (UsartRx.start usart).run memory inputs
    ∃ words : List U32, rx.usart.storedBytes = words.flatMap rx.usart.config.bytes ∧
      (words ++ rx.receiver.waiting).Sublist rx.receiver.arrived ∧
      rx.receiver.arrived.length ≤ words.length + rx.receiver.waiting.length +
        rx.receiver.overrun + rx.usart.events.countP UsartEvent.clears := by
  have hGood := UsartRx.good_run memory (UsartRx.good_start usart) inputs
  intro rx
  have hReported : rx.usart.Reported 0 0 rx.receiver := by
    simpa only [UsartRx.Good, hIdle] using hGood
  obtain ⟨words, hBytes, hSublist, hLength⟩ := hReported.stored
  have hTotal := hReported.sound.total
  have hCleared := hReported.cleared
  refine ⟨words, hBytes, (hSublist.append_right _).trans hReported.sound.ordered, ?_⟩
  have hCount := countP_clears rx.usart.events
  omega

/-- Of two words the first is stored, and the second, which comes in while IDLE is cleared, is
read and dropped. -/
theorem usart_words_accounted_idle :
    let inputs : List UsartInput := [.receiveIt 0 2, .arrive 65, .interrupt] ++
      List.replicate 7 (.access (bit usartSrIdle)) ++ [.arrive 66] ++
      List.replicate 4 (.access (bit usartSrIdle))
    let rx := (UsartRx.start ⟨⟨0, 0⟩, bit usartCr1Idleie, 0, 0, 0, 0, 0, .ready, .ready, {}, {},
      []⟩).run (fun _ => 0) inputs
    rx.receiver.arrived = [65, 66] ∧ rx.usart.events = [.idle] ∧
    ∃ words : List U32, rx.usart.storedBytes = words.flatMap rx.usart.config.bytes ∧
      (words ++ rx.receiver.waiting).Sublist rx.receiver.arrived ∧
      rx.receiver.arrived.length ≤ words.length + rx.receiver.waiting.length +
        rx.receiver.overrun + rx.usart.events.countP UsartEvent.clears := by
  refine ⟨rfl, rfl, usart_words_accounted _ _ _ rfl⟩

end KoRTOS.Hal
