import KoRTOS.Hal.CanSending
import Mathlib.Algebra.Order.Group.Multiset

/-!
# A frame is sent as it is

The parts of `CAN_transmit` in turn, while requests complete between any two accesses. As long
as nobody else accesses the peripheral, the mailbox that the call chose stays its own until the
frame is in it, no write to it is ignored, and `KHAL_OK` means that the frame was on the bus.
-/

namespace KoRTOS.Hal

open RegisterBits Accesses

def CanAccess.loads : CanAccess → Option Nat
  | .writeTir mailbox _ => some mailbox
  | .writeTdtr mailbox _ => some mailbox
  | .writeTdlr mailbox _ => some mailbox
  | .writeTdhr mailbox _ => some mailbox
  | _ => none

def requestedBy (frame : Option CanFrame) : KhalStatus → List CanMailbox
  | .ok => (frame.map CanFrame.mailbox).toList
  | .errTx => (frame.map CanFrame.mailbox).toList
  | .errTimeout => (frame.map CanFrame.mailbox).toList
  | _ => []

def reportedBy (frame : Option CanFrame) : KhalStatus → List CanMailbox
  | .ok => (frame.map CanFrame.mailbox).toList
  | _ => []

namespace CanTransmitter

variable {device : CanTransmitter} {e : CanChange} {mailbox x : Nat} {w value : U32}

theorem txFlags_shownTsr (hx : x < 3) : txFlags (device.shownTsr w) x = txFlags device.tsr x := by
  rw [shownTsr]
  split <;> exact txFlags_prioritiesTsr hx

theorem vacant_iff : device.vacant x = true ↔ x < 3 ∧ (txFlags device.tsr x).tme = true := by
  rw [vacant, Bool.and_eq_true, decide_eq_true_eq]

theorem shownTsr_and_canTsrTmeMsk (hx : x < 3) :
    device.shownTsr w &&& canTsrTmeMsk x = 0 ↔ device.vacant x = false := by
  rw [and_canTsrTmeMsk hx, txFlags_shownTsr hx, vacant, decide_eq_true hx, Bool.true_and]

theorem shownTsr_and_canTsrTxokMsk (hx : x < 3) :
    device.shownTsr w &&& canTsrTxokMsk x ≠ 0 ↔ (txFlags device.tsr x).txok = true := by
  rw [and_canTsrTxokMsk hx, txFlags_shownTsr hx]

theorem exists_vacant
    (h : device.shownTsr w &&& (canTsrTmeMsk 0 ||| canTsrTmeMsk 1 ||| canTsrTmeMsk 2) ≠ 0) :
    ∃ x, device.vacant x = true := by
  by_contra hNone
  have hZero : ∀ x < 3, device.shownTsr w &&& canTsrTmeMsk x = 0 := by
    intro x hx
    refine (shownTsr_and_canTsrTmeMsk hx).mpr (Bool.eq_false_iff.mpr fun hVacant => ?_)
    exact hNone ⟨x, hVacant⟩
  refine h ?_
  rw [BitVec.and_or_distrib_left, BitVec.and_or_distrib_left, hZero 0 (by decide),
    hZero 1 (by decide), hZero 2 (by decide)]
  rfl

theorem canTsrCode_prioritiesTsr {word tsr : U32} :
    canTsrCode (prioritiesTsr word tsr) = canTsrCode word := by
  have hOutside : ~~~canTsrPriorityMsk &&& canTsrCodeMsk = 0#32 := by decide
  have hInside : canTsrPriorityMsk &&& canTsrCodeMsk = canTsrCodeMsk := by decide
  rw [canTsrCode, canTsrCode, prioritiesTsr, BitVec.and_or_distrib_right, BitVec.and_assoc,
    BitVec.and_assoc, hOutside, hInside, BitVec.and_zero, BitVec.zero_or]

theorem canTsrCode_shiftLeft : ∀ x < 3, canTsrCode (BitVec.ofNat 32 x <<< canTsrCodePos) = x := by
  decide

theorem vacant_lowestVacant (h : device.vacant x = true) :
    device.vacant device.lowestVacant = true := by
  rw [lowestVacant]
  split
  · assumption
  · split
    · assumption
    · obtain ⟨hx, _⟩ := vacant_iff.mp h
      match x, hx with
      | 0, _ => contradiction
      | 1, _ => contradiction
      | 2, _ => exact h

theorem vacant_canTsrCode (h : device.vacant x = true) :
    device.vacant (canTsrCode (device.shownTsr w)) = true := by
  have hLowest := vacant_lowestVacant h
  have hSome : (device.vacant 0 || device.vacant 1 || device.vacant 2) = true := by
    obtain ⟨hx, _⟩ := vacant_iff.mp h
    match x, hx with
    | 0, _ => rw [h, Bool.true_or, Bool.true_or]
    | 1, _ => rw [h, Bool.or_true, Bool.true_or]
    | 2, _ => rw [h, Bool.or_true]
  rw [shownTsr, hSome, Bool.true_and]
  split
  · rw [canTsrCode_prioritiesTsr, canTsrCode_shiftLeft _ (vacant_iff.mp hLowest).1]
    exact hLowest
  · rename_i hVacant
    rw [canTsrCode_prioritiesTsr]
    simpa using hVacant

theorem vacant_complete {ok lost failed : Bool} (hm : mailbox < 3) :
    (device.complete mailbox ok lost failed).vacant x =
      if x = mailbox then true else device.vacant x := by
  by_cases hx : x < 3
  · rw [vacant, complete, txFlags_completeTsr hm hx, decide_eq_true hx, vacant, decide_eq_true hx]
    split <;> rfl
  · rw [if_neg (by omega), vacant, vacant, decide_eq_false hx, Bool.false_and, Bool.false_and]

theorem vacant_occur (h : device.vacant x = true) : (device.occur e).vacant x = true := by
  rw [occur]
  split
  · rename_i hPending
    rw [vacant_complete hPending.1]
    split
    · rfl
    · exact h
  · exact h

theorem mailboxes_occur (h : device.vacant x = true) :
    (device.occur e).mailboxes x = device.mailboxes x := by
  rw [occur]
  split
  · rename_i hPending
    refine Function.update_of_ne ?_ _ _
    rintro rfl
    rw [h] at hPending
    cases hPending.2
  · rfl

theorem requested_occur : (device.occur e).requested = device.requested := by
  rw [occur]
  split <;> rfl

theorem sent_occur : device.sent.Sublist (device.occur e).sent := by
  rw [occur]
  split
  · rw [complete]
    dsimp only
    split
    · exact List.sublist_append_left _ _
    · exact .refl _
  · exact .refl _

/-- What waits in a mailbox to be sent. -/
def held (device : CanTransmitter) (x : Nat) : Multiset CanMailbox :=
  if device.vacant x then 0 else {device.mailboxes x}

/-- Nothing is sent that was not requested, or more often than it was requested. -/
def Accounted (device : CanTransmitter) : Prop :=
  (device.sent : Multiset CanMailbox) + (device.held 0 + device.held 1 + device.held 2) ≤
    (device.requested : Multiset CanMailbox)

theorem held_of_vacant (h : device.vacant x = true) : device.held x = 0 := if_pos h

theorem held_split {device' : CanTransmitter} (hm : mailbox < 3)
    (hOther : ∀ x, x ≠ mailbox → device'.held x = device.held x) :
    ∃ rest, device.held 0 + device.held 1 + device.held 2 = device.held mailbox + rest ∧
      device'.held 0 + device'.held 1 + device'.held 2 = device'.held mailbox + rest := by
  match mailbox, hm with
  | 0, _ =>
    refine ⟨device.held 1 + device.held 2, add_assoc _ _ _, ?_⟩
    rw [hOther 1 (by decide), hOther 2 (by decide), add_assoc]
  | 1, _ =>
    refine ⟨device.held 0 + device.held 2, ?_, ?_⟩
    · rw [add_comm (device.held 0), add_assoc]
    · rw [hOther 0 (by decide), hOther 2 (by decide), add_comm (device.held 0), add_assoc]
  | 2, _ =>
    refine ⟨device.held 0 + device.held 1, add_comm _ _, ?_⟩
    rw [hOther 0 (by decide), hOther 1 (by decide), add_comm]

theorem Accounted.congr {device' : CanTransmitter} (h : device.Accounted)
    (hHeld : ∀ x, device'.held x = device.held x) (hSent : device'.sent = device.sent)
    (hRequested : device'.requested = device.requested) : device'.Accounted := by
  rw [Accounted, hHeld, hHeld, hHeld, hSent, hRequested]
  exact h

theorem Accounted.complete {ok lost failed : Bool} (h : device.Accounted) (hm : mailbox < 3)
    (hPending : device.vacant mailbox = false) :
    (device.complete mailbox ok lost failed).Accounted := by
  have hOther : ∀ x, x ≠ mailbox →
      (device.complete mailbox ok lost failed).held x = device.held x := by
    intro x hx
    have hSame : (device.complete mailbox ok lost failed).mailboxes x = device.mailboxes x :=
      Function.update_of_ne hx _ _
    rw [held, vacant_complete hm, if_neg hx, hSame, held]
  obtain ⟨rest, hBefore, hAfter⟩ := held_split hm hOther
  have hEmpty : (device.complete mailbox ok lost failed).held mailbox = 0 :=
    held_of_vacant (by rw [vacant_complete hm, if_pos rfl])
  have hHeld : device.held mailbox = {device.mailboxes mailbox} :=
    if_neg (Bool.eq_false_iff.mp hPending)
  rw [Accounted, hBefore, hHeld] at h
  rw [Accounted, hAfter, hEmpty, zero_add]
  refine le_trans ?_ h
  rw [CanTransmitter.complete]
  dsimp only
  split
  · rw [← Multiset.coe_add, Multiset.coe_singleton, add_assoc]
  · exact add_le_add_right (le_add_of_nonneg_left (Multiset.zero_le _)) _

theorem Accounted.occur (h : device.Accounted) : (device.occur e).Accounted := by
  rw [CanTransmitter.occur]
  split
  · rename_i hPending
    exact h.complete hPending.1 hPending.2
  · exact h

theorem vacant_load {write : CanMailbox → CanMailbox} :
    (device.load mailbox write).vacant x = device.vacant x := by
  rw [load]
  split <;> rfl

theorem mailboxes_load {write : CanMailbox → CanMailbox} (h : device.vacant x = false) :
    (device.load mailbox write).mailboxes x = device.mailboxes x := by
  rw [load]
  split
  · rename_i hOwn
    refine Function.update_of_ne ?_ _ _
    rintro rfl
    rw [h] at hOwn
    cases hOwn
  · rfl

theorem held_load {write : CanMailbox → CanMailbox} :
    (device.load mailbox write).held x = device.held x := by
  rw [held, held, vacant_load]
  cases hVacant : device.vacant x with
  | true => rfl
  | false => rw [mailboxes_load hVacant]

theorem Accounted.load {write : CanMailbox → CanMailbox} (h : device.Accounted) :
    (device.load mailbox write).Accounted := by
  refine h.congr (fun x => held_load) ?_ ?_
  · rw [CanTransmitter.load]
    split <;> rfl
  · rw [CanTransmitter.load]
    split <;> rfl

theorem Accounted.request (h : device.Accounted) (hVacant : device.vacant mailbox = true) :
    (device.request mailbox).Accounted := by
  have hm : mailbox < 3 := (vacant_iff.mp hVacant).1
  have hFlags : ∀ x, (device.request mailbox).vacant x =
      if x = mailbox then false else device.vacant x := by
    intro x
    by_cases hx : x < 3
    · rw [vacant, CanTransmitter.request, txFlags_requestTsr hm hx, decide_eq_true hx, vacant,
        decide_eq_true hx]
      split <;> rfl
    · rw [if_neg (by omega), vacant, vacant, decide_eq_false hx, Bool.false_and, Bool.false_and]
  have hOther : ∀ x, x ≠ mailbox → (device.request mailbox).held x = device.held x := by
    intro x hx
    rw [held, hFlags, if_neg hx]
    rfl
  obtain ⟨rest, hBefore, hAfter⟩ := held_split hm hOther
  have hHeld : (device.request mailbox).held mailbox = {device.mailboxes mailbox} := by
    rw [held, hFlags, if_pos rfl]
    rfl
  rw [Accounted, hBefore, held_of_vacant hVacant, zero_add] at h
  rw [Accounted, hAfter, hHeld, CanTransmitter.request]
  dsimp only
  rw [← Multiset.coe_add, Multiset.coe_singleton, add_left_comm, add_comm]
  exact add_le_add_left h _

theorem held_writeTsr :
    held { device with tsr := writeTsr device.tsr value } x = device.held x := by
  have hTme : ∀ y < 3,
      (txFlags (writeTsr device.tsr value) y).tme = (txFlags device.tsr y).tme := by
    intro y hy
    rw [txFlags_writeTsr hy]
    split <;> rfl
  by_cases hx : x < 3
  · rw [held, held, vacant, vacant, hTme x hx]
  · rw [held, held, vacant, vacant, decide_eq_false hx, Bool.false_and, Bool.false_and]

theorem Accounted.respond (i : CanAccess) (h : device.Accounted) :
    (device.respond i w).2.Accounted := by
  cases i with
  | readTsr => exact h
  | readTir => exact h
  | writeTsr => exact h.congr (fun x => held_writeTsr) rfl rfl
  | writeTir mailbox value =>
    change (device.writeTir mailbox value).Accounted
    rw [writeTir]
    split
    · rename_i hRequest
      exact h.load.request (vacant_load.trans hRequest.1)
    · exact h.load
  | _ => exact h.load

/-- What calls have requested so far, and what they reported as sent. -/
structure Reported (loaded confirmed : List CanMailbox) (device : CanTransmitter) : Prop where
  requested : device.requested = loaded
  acked : confirmed.Sublist device.sent

structure Loading (loaded confirmed : List CanMailbox) (mailbox : Nat) (P : CanMailbox → Prop)
    (device : CanTransmitter) : Prop extends Reported loaded confirmed device where
  vacant : device.vacant mailbox = true
  registers : P (device.mailboxes mailbox)

structure Requested (loaded confirmed : List CanMailbox) (mailbox : Nat) (image : CanMailbox)
    (device : CanTransmitter) : Prop extends Reported (loaded ++ [image]) confirmed device where
  mailbox_lt : mailbox < 3
  waits : device.vacant mailbox = false → device.mailboxes mailbox = image
  done : device.vacant mailbox = true → (txFlags device.tsr mailbox).txok = true →
    (confirmed ++ [image]).Sublist device.sent

variable {loaded confirmed : List CanMailbox} {image : CanMailbox} {P R : CanMailbox → Prop}

theorem Reported.occur (h : device.Reported loaded confirmed) :
    (device.occur e).Reported loaded confirmed :=
  ⟨requested_occur.trans h.requested, h.acked.trans sent_occur⟩

theorem stable_reported : canTransmitter.Stable (Reported loaded confirmed) :=
  fun _ _ h => h.occur

theorem stable_loading : canTransmitter.Stable (Loading loaded confirmed mailbox P) := by
  intro e device h
  refine ⟨h.toReported.occur, vacant_occur h.vacant, ?_⟩
  change P ((device.occur e).mailboxes mailbox)
  rw [mailboxes_occur h.vacant]
  exact h.registers

theorem Requested.complete {ok lost failed : Bool}
    (h : device.Requested loaded confirmed mailbox image) (hx : x < 3)
    (hPending : device.vacant x = false) :
    (device.complete x ok lost failed).Requested loaded confirmed mailbox image := by
  have hReported : (device.complete x ok lost failed).Reported (loaded ++ [image]) confirmed := by
    have hOccur := h.toReported.occur (e := ⟨x, ok, lost, failed⟩)
    rwa [occur, if_pos ⟨hx, hPending⟩] at hOccur
  have hFlags : txFlags (device.complete x ok lost failed).tsr mailbox =
      if mailbox = x then ⟨true, ok, true⟩ else txFlags device.tsr mailbox :=
    txFlags_completeTsr hx h.mailbox_lt
  refine ⟨hReported, h.mailbox_lt, fun hWaits => ?_, fun hVacant hOk => ?_⟩
  · rw [vacant_complete hx] at hWaits
    split at hWaits
    · cases hWaits
    · rename_i hNe
      exact (Function.update_of_ne hNe _ _).trans (h.waits hWaits)
  · rw [hFlags] at hOk
    rw [vacant_complete hx] at hVacant
    split at hOk
    · rename_i hEq
      subst hEq
      obtain rfl : ok = true := hOk
      change (confirmed ++ [image]).Sublist (device.sent ++ [device.mailboxes mailbox])
      rw [h.waits hPending]
      exact h.acked.append_right [image]
    · rename_i hNe
      rw [if_neg hNe] at hVacant
      refine (h.done hVacant hOk).trans ?_
      rw [CanTransmitter.complete]
      dsimp only
      split
      · exact List.sublist_append_left _ _
      · exact .refl _

theorem stable_requested :
    canTransmitter.Stable (Requested loaded confirmed mailbox image) := by
  intro e device h
  change (device.occur e).Requested loaded confirmed mailbox image
  rw [occur]
  split
  · rename_i hPending
    exact h.complete hPending.1 hPending.2
  · exact h

/-- Only the registers of an empty mailbox are written, and nothing but this call's own frame is
requested. -/
structure Permits (loaded confirmed : List CanMailbox) (frame : Option CanFrame) (i : CanAccess)
    (device : CanTransmitter) : Prop where
  vacant : ∀ mailbox, i.loads = some mailbox → device.vacant mailbox = true
  requested : device.requested = loaded ∨
    ∃ sending, frame = some sending ∧ device.requested = loaded ++ [sending.mailbox]
  acked : confirmed.Sublist device.sent

abbrev CanTriple (loaded confirmed : List CanMailbox) (frame : Option CanFrame) {α : Type}
    (A : CanTransmitter → Prop) (p : CanProg α) (Q : α → CanTransmitter → Prop) : Prop :=
  canTransmitter.Triple (Permits loaded confirmed frame) A p Q

variable {frame : CanFrame} {sending : Option CanFrame} {i : CanAccess} {α : Type}
  {Q : α → CanTransmitter → Prop}

theorem Reported.permits (h : device.Reported loaded confirmed) (hLoads : i.loads = none) :
    device.Permits loaded confirmed sending i := by
  refine ⟨fun mailbox hSome => ?_, .inl h.requested, h.acked⟩
  rw [hLoads] at hSome
  cases hSome

theorem Loading.permits (h : device.Loading loaded confirmed mailbox P)
    (hLoads : ∀ x, i.loads = some x → x = mailbox) :
    device.Permits loaded confirmed sending i := by
  refine ⟨fun x hSome => ?_, .inl h.requested, h.acked⟩
  rw [hLoads x hSome]
  exact h.vacant

theorem Reported.permits_requested (acked : List CanMailbox)
    (h : device.Reported (loaded ++ [frame.mailbox]) (confirmed ++ acked))
    (hLoads : i.loads = none) : device.Permits loaded confirmed (some frame) i := by
  refine ⟨fun mailbox hSome => ?_, .inr ⟨frame, rfl, h.requested⟩, ?_⟩
  · rw [hLoads] at hSome
    cases hSome
  · exact (List.sublist_append_left _ _).trans h.acked

theorem Requested.permits (h : device.Requested loaded confirmed mailbox frame.mailbox)
    (hLoads : i.loads = none) : device.Permits loaded confirmed (some frame) i := by
  refine Reported.permits_requested [] ⟨h.requested, ?_⟩ hLoads
  rw [List.append_nil]
  exact h.acked

def registersOf (frame : CanFrame) : CanMailbox := { frame.mailbox with tir := frame.tirValue }

theorem tirValue_and_canTixrTxrqMsk : frame.tirValue &&& canTixrTxrqMsk = 0 := by
  have hBit : canTixrTxrqMsk = bit 0 := rfl
  rw [hBit]
  refine (and_bit_eq_zero (by decide)).mpr ?_
  rw [CanFrame.tirValue]
  split
  · simp [canTixrIdePos, canTixrRtrPos, canTixrStidPos]
  · simp [canTixrIdePos, canTixrRtrPos, canTixrExidPos]

theorem or_canTixrTxrqMsk : (value ||| canTixrTxrqMsk) &&& canTixrTxrqMsk ≠ 0 := by
  have hBit : canTixrTxrqMsk = bit 0 := rfl
  rw [hBit]
  exact (and_bit_ne_zero (by decide)).mpr (getLsbD_or_bit_self (by decide))

theorem Loading.load (write : CanMailbox → CanMailbox)
    (h : device.Loading loaded confirmed mailbox P)
    (hWrite : ∀ registers, P registers → R (write registers)) :
    (device.load mailbox write).Loading loaded confirmed mailbox R := by
  rw [CanTransmitter.load, if_pos h.vacant]
  refine ⟨⟨h.requested, h.acked⟩, h.vacant, ?_⟩
  dsimp only
  rw [Function.update_self]
  exact hWrite _ h.registers

theorem Loading.request
    (h : device.Loading loaded confirmed mailbox fun registers => registers = registersOf frame) :
    (device.writeTir mailbox (frame.tirValue ||| canTixrTxrqMsk)).Requested loaded confirmed mailbox
      frame.mailbox := by
  have hLt : mailbox < 3 := (vacant_iff.mp h.vacant).1
  have hImage : (device.load mailbox fun registers =>
      { registers with tir := frame.tirValue ||| canTixrTxrqMsk }).mailboxes mailbox =
        frame.mailbox := by
    rw [CanTransmitter.load, if_pos h.vacant]
    dsimp only
    rw [Function.update_self, h.registers]
    rfl
  have hLoaded := h.load (R := fun _ => True)
    (fun registers => { registers with tir := frame.tirValue ||| canTixrTxrqMsk })
    fun _ _ => trivial
  rw [writeTir, if_pos ⟨h.vacant, or_canTixrTxrqMsk⟩]
  refine ⟨⟨?_, hLoaded.acked⟩, hLt, fun _ => hImage, fun hVacant => ?_⟩
  · rw [CanTransmitter.request]
    dsimp only
    rw [hImage, hLoaded.requested]
  · have hTme := (vacant_iff.mp hVacant).2
    rw [CanTransmitter.request, txFlags_requestTsr hLt hLt, if_pos rfl] at hTme
    cases hTme

theorem triple_write {next : U32 → CanProg α} (write : CanMailbox → CanMailbox)
    (hLoads : i.loads = some mailbox)
    (hRespond : ∀ device w, (respond i w device).2 = device.load mailbox write)
    (hWrite : ∀ registers, P registers → R (write registers))
    (hNext : ∀ r, CanTriple loaded confirmed sending (Loading loaded confirmed mailbox R)
      (next r) Q) :
    CanTriple loaded confirmed sending (Loading loaded confirmed mailbox P) (.access i next) Q := by
  refine .access stable_loading (fun device h => h.permits fun x hSome => ?_)
    (C := fun _ => Loading loaded confirmed mailbox R) (fun device w h => ?_) hNext
  · rw [hLoads] at hSome
    exact (Option.some.inj hSome).symm
  · change Loading _ _ _ _ (respond i w device).2
    rw [hRespond]
    exact h.load write hWrite

theorem triple_load : CanTriple loaded confirmed (some frame)
    (Loading loaded confirmed mailbox fun _ => True) (CanProg.load mailbox frame)
    fun _ => Requested loaded confirmed mailbox frame.mailbox := by
  refine triple_write (R := fun registers => registers.tir = frame.tirValue)
    (fun registers => { registers with tir := frame.tirValue }) rfl ?_ (fun _ _ => rfl) fun _ => ?_
  · intro device w
    change device.writeTir mailbox frame.tirValue = _
    rw [writeTir, if_neg fun hAnd => hAnd.2 tirValue_and_canTixrTxrqMsk]
  refine triple_write (R := fun registers => registers.tir = frame.tirValue ∧
    registers.tdtr = frame.mailbox.tdtr)
    (fun registers => { registers with tdtr := frame.mailbox.tdtr }) rfl (fun _ _ => rfl)
    (fun _ h => ⟨h, rfl⟩) fun _ => ?_
  refine triple_write (R := fun registers => registers.tir = frame.tirValue ∧
    registers.tdtr = frame.mailbox.tdtr ∧ registers.tdlr = frame.mailbox.tdlr)
    (fun registers => { registers with tdlr := frame.mailbox.tdlr }) rfl (fun _ _ => rfl)
    (fun _ h => ⟨h.1, h.2, rfl⟩) fun _ => ?_
  refine triple_write (R := fun registers => registers = registersOf frame)
    (fun registers => { registers with tdhr := frame.mailbox.tdhr }) rfl (fun _ _ => rfl)
    (fun registers h => ?_) fun _ => ?_
  · obtain ⟨tir, tdtr, tdlr, tdhr⟩ := registers
    obtain ⟨rfl, rfl, rfl⟩ := h
    rfl
  refine .access stable_loading (fun device h => h.permits (by rintro _ ⟨⟩))
    (C := fun tir device => device.Loading loaded confirmed mailbox
      (fun registers => registers = registersOf frame) ∧ tir = frame.tirValue)
    (fun device w h => ⟨h, congrArg CanMailbox.tir h.registers⟩) fun tir => ?_
  refine .access (C := fun _ => Requested loaded confirmed mailbox frame.mailbox) ?_ ?_ ?_
    fun _ => .pure stable_requested fun _ => id
  · exact fun e device h => ⟨stable_loading e device h.1, h.2⟩
  · exact fun device h => h.1.permits fun x hSome => (Option.some.inj hSome).symm
  · rintro device w ⟨h, rfl⟩
    exact h.request

theorem triple_awaitVacant (timeout : Nat) : CanTriple loaded confirmed (some frame)
    (Requested loaded confirmed mailbox frame.mailbox) (CanProg.awaitVacant mailbox timeout)
    fun left device => device.Requested loaded confirmed mailbox frame.mailbox ∧
      (left ≠ 0 → device.vacant mailbox = true) := by
  have hStable : ∀ φ : Prop, canTransmitter.Stable fun device =>
      device.Requested loaded confirmed mailbox frame.mailbox ∧
        (φ → device.vacant mailbox = true) :=
    fun φ e device h => ⟨stable_requested e device h.1, fun hφ => vacant_occur (h.2 hφ)⟩
  induction timeout with
  | zero =>
    refine .access stable_requested (fun device h => h.permits rfl)
      (C := fun _ => Requested loaded confirmed mailbox frame.mailbox) (fun _ _ h => h)
      fun _ => .pure (hStable _) fun device h => ⟨h, fun hNe => absurd rfl hNe⟩
  | succ timeout ih =>
    refine .access stable_requested (fun device h => h.permits rfl)
      (C := fun tsr device => device.Requested loaded confirmed mailbox frame.mailbox ∧
        (tsr &&& canTsrTmeMsk mailbox ≠ 0 → device.vacant mailbox = true)) ?_ fun tsr => ?_
    · refine fun device w h => ⟨h, fun hNe => ?_⟩
      have hTest : device.shownTsr w &&& canTsrTmeMsk mailbox = 0 ↔
          device.vacant mailbox = false := shownTsr_and_canTsrTmeMsk h.mailbox_lt
      exact eq_true_of_ne_false fun hFull => hNe (hTest.mpr hFull)
    · change CanTriple _ _ _ _ (if tsr &&& canTsrTmeMsk mailbox = 0 then _ else _) _
      split
      · exact ih.consequence (fun _ h => h.1) fun _ _ => id
      · rename_i hNe
        exact .pure (hStable _) fun device h => ⟨h.1, fun _ => h.2 hNe⟩

theorem triple_clearRqcp (acked : List CanMailbox) : CanTriple loaded confirmed (some frame)
    (Reported (loaded ++ [frame.mailbox]) (confirmed ++ acked)) (CanProg.clearRqcp mailbox)
    fun _ => Reported (loaded ++ [frame.mailbox]) (confirmed ++ acked) := by
  refine .access stable_reported (fun device h => h.permits_requested acked rfl)
    (C := fun _ => Reported (loaded ++ [frame.mailbox]) (confirmed ++ acked)) (fun _ _ h => h)
    fun _ => ?_
  exact .access stable_reported (fun device h => h.permits_requested acked rfl)
    (C := fun _ => Reported (loaded ++ [frame.mailbox]) (confirmed ++ acked))
    (fun _ _ h => ⟨h.requested, h.acked⟩) fun _ => .pure stable_reported fun _ => id

theorem Requested.reported (h : device.Requested loaded confirmed mailbox frame.mailbox) :
    device.Reported (loaded ++ [frame.mailbox]) (confirmed ++ []) := by
  rw [List.append_nil]
  exact h.toReported

theorem triple_await : CanTriple loaded confirmed (some frame)
    (Requested loaded confirmed mailbox frame.mailbox) (CanProg.await mailbox)
    fun status => Reported (loaded ++ requestedBy (some frame) status)
      (confirmed ++ reportedBy (some frame) status) := by
  refine .assuming (fun device h => h.mailbox_lt) fun hLt => ?_
  rw [CanProg.await, if_pos hLt]
  refine (triple_awaitVacant canInitTimeout).bind fun timeout => ?_
  split
  · exact .pure stable_reported fun device h => h.1.reported
  · rename_i hLeft
    refine .access (C := fun tsr device =>
        device.Requested loaded confirmed mailbox frame.mailbox ∧
          (tsr &&& canTsrTxokMsk mailbox ≠ 0 →
            (confirmed ++ [frame.mailbox]).Sublist device.sent)) ?_
      (fun device h => h.1.permits rfl) ?_ fun tsr => ?_
    · exact fun e device h => ⟨stable_requested e device h.1, fun hNe => vacant_occur (h.2 hNe)⟩
    · exact fun device w h => ⟨h.1, fun hNe =>
        h.1.done (h.2 hLeft) ((shownTsr_and_canTsrTxokMsk hLt).mp hNe)⟩
    · change CanTriple _ _ _ _ (if tsr &&& canTsrTxokMsk mailbox = 0 then _ else _) _
      split
      · refine (triple_clearRqcp []).bind (fun _ => .pure stable_reported fun _ => id)
          |>.consequence (fun device h => h.1.reported) fun _ _ => id
      · rename_i hOk
        refine (triple_clearRqcp [frame.mailbox]).bind
          (fun _ => .pure stable_reported fun _ => id) |>.consequence ?_ fun _ _ => id
        exact fun device h => ⟨h.1.requested, h.2 hOk⟩

/-- `CAN_load_mailbox` refuses the frame, or has requested it in the mailbox that it returns. -/
def Loaded (loaded confirmed : List CanMailbox) (sending : Option CanFrame) :
    Except KhalStatus Nat → CanTransmitter → Prop
  | .error status, device =>
    (requestedBy sending status = [] ∧ reportedBy sending status = []) ∧
      device.Reported loaded confirmed
  | .ok mailbox, device =>
    ∃ frame, sending = some frame ∧ device.Requested loaded confirmed mailbox frame.mailbox

theorem triple_refused {status : KhalStatus} (hRequested : requestedBy sending status = [])
    (hSent : reportedBy sending status = []) :
    CanTriple loaded confirmed sending (Reported loaded confirmed) (.pure (.error status))
      (Loaded loaded confirmed sending) :=
  .pure (fun e _ h => ⟨h.1, stable_reported e _ h.2⟩) fun _ h => ⟨⟨hRequested, hSent⟩, h⟩

theorem triple_loadMailbox : CanTriple loaded confirmed sending (Reported loaded confirmed)
    (CanProg.loadMailbox sending) (Loaded loaded confirmed sending) := by
  cases sending with
  | none => exact triple_refused rfl rfl
  | some frame =>
    rw [CanProg.loadMailbox]
    split
    · exact triple_refused rfl rfl
    refine .access (C := fun tsr device => device.Reported loaded confirmed ∧
        (tsr &&& (canTsrTmeMsk 0 ||| canTsrTmeMsk 1 ||| canTsrTmeMsk 2) ≠ 0 →
          ∃ x, device.vacant x = true)) stable_reported (fun device h => h.permits rfl)
      (fun device w h => ⟨h, exists_vacant⟩) fun tsr => ?_
    change CanTriple _ _ _ _ (if _ then _ else _) _
    split
    · exact (triple_refused rfl rfl).consequence (fun _ h => h.1) fun _ _ => id
    rename_i hSome
    refine .access (C := fun tsr => Loading loaded confirmed (canTsrCode tsr) fun _ => True) ?_
      (fun device h => h.1.permits rfl) ?_ fun tsr => ?_
    · rintro e device ⟨h, hVacant⟩
      refine ⟨stable_reported e device h, fun hNe => ?_⟩
      obtain ⟨x, hx⟩ := hVacant hNe
      exact ⟨x, vacant_occur hx⟩
    · rintro device w ⟨h, hVacant⟩
      obtain ⟨x, hx⟩ := hVacant hSome
      exact ⟨h, vacant_canTsrCode hx, trivial⟩
    · refine triple_load.bind fun _ => .pure ?_ fun device h => ⟨frame, rfl, h⟩
      rintro e device ⟨sent, hSending, h⟩
      exact ⟨sent, hSending, stable_requested e device h⟩

/-- `CAN_transmit` requests the frame that it was given or nothing, and `KHAL_OK` means that this
frame was sent. -/
theorem triple_transmit : CanTriple loaded confirmed sending (Reported loaded confirmed)
    (CanProg.transmit sending)
    fun status => Reported (loaded ++ requestedBy sending status)
      (confirmed ++ reportedBy sending status) := by
  refine triple_loadMailbox.bind fun result => ?_
  cases result with
  | error status =>
    refine .assuming (fun _ h => h.1) fun hNothing => .pure stable_reported fun device h => ?_
    rw [hNothing.1, hNothing.2, List.append_nil, List.append_nil]
    exact h.2
  | ok mailbox =>
    rintro device ⟨frame, rfl, h⟩
    exact triple_await device h

end CanTransmitter
end KoRTOS.Hal
