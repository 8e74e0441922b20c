import KoRTOS.Hal.I2cReceiving

/-!
# The I2C while it receives

What holds of the peripheral from the start of a reception on, as long as the driver makes
the accesses it may make: which bytes were answered, and how.
-/

namespace KoRTOS.Hal

open RegisterBits Accesses

def I2cStage.left : I2cStage → Nat
  | .idle => 5
  | .starting => 4
  | .sb => 3
  | .addressing => 2
  | .addr => 1
  | .clocking => 0

def I2cFlag.bit : I2cFlag → Nat
  | .sb => i2cSr1Sb
  | .addr => i2cSr1Addr
  | .rxne => i2cSr1Rxne

namespace I2cDevice

def acking (device : I2cDevice) : Bool := device.cr1.getLsbD i2cCr1Ack

theorem shows_rxne {device : I2cDevice} :
    device.shows .rxne = true ↔ device.taken < device.answers.length := decide_eq_true_iff

/-- `len` bytes are to be received. ACK is set until two are left, and then it is cleared before
the byte after the next can be answered. -/
structure Serving (len ahead : Nat) (device : I2cDevice) : Prop where
  some_bytes : 0 < len
  fresh : device.stage ≠ .clocking → device.taken = 0 ∧ device.answers = []
  started : device.stage ≠ .idle → device.stage ≠ .starting →
    device.cr1.getLsbD i2cCr1Start = false
  taken_le : device.taken ≤ device.answers.length
  kept : device.taken + 2 < len → device.acking = true
  due : device.acking = false → len ≤ device.answers.length + 1
  before : device.stage = .clocking → device.acking = true → device.taken < len →
    device.taken + 2 ≤ len
  acked : ∀ i, i + 1 < len → i < device.answers.length → device.answers[i]? = some true
  refused : ahead = 1 ∨ len = 1 → ∀ answer, device.answers[len - 1]? = some answer →
    answer = false

/-- What the driver may do: `ADDR` is not cleared while the only byte would be acknowledged, and
only a byte that came in is read, the second-last one with ACK cleared. -/
def Permitted (len : Nat) : I2cAccess → I2cDevice → Prop
  | .readSr2, device => len = 1 → device.stage = .addr → device.sr1Read = true →
    device.acking = false
  | .readDr, device => device.taken < device.answers.length ∧ device.taken < len ∧
    (device.taken + 2 = len → device.acking = false)
  | _, _ => True

def Restarts : I2cAccess → I2cDevice → Prop
  | .writeCr1 value, device => value.getLsbD i2cCr1Start = true ∧ device.stage ≠ .idle
  | _, _ => False

structure Sound (len ahead : Nat) (i : I2cAccess) (device : I2cDevice) : Prop where
  serving : device.Serving len ahead
  permitted : device.Permitted len i
  noRestart : ¬ device.Restarts i

inductive Changes (ahead : Nat) (device : I2cDevice) : I2cDevice → Prop
  | same : Changes ahead device device
  | sb (hStage : device.stage = .starting) : Changes ahead device
      { device with stage := .sb, cr1 := device.cr1 &&& ~~~bit i2cCr1Start }
  | addr (hStage : device.stage = .addressing) : Changes ahead device
      { device with stage := .addr }
  | byte (hStage : device.stage = .clocking)
      (hRoom : device.answers.length < device.taken + ahead) : Changes ahead device
      { device with answers := device.answers ++ [device.acking] }

variable {len ahead : Nat} {device next : I2cDevice} {e : I2cChange}

theorem changes_occur : Changes ahead device (device.occur ahead e) := by
  cases e with
  | sb =>
    rw [occur]
    split
    · rename_i hStage
      exact .sb hStage
    · exact .same
  | addr =>
    rw [occur]
    split
    · rename_i hStage
      exact .addr hStage
    · exact .same
  | byte =>
    rw [occur]
    split
    · rename_i h
      exact .byte h.1 h.2.2
    · exact .same

namespace Changes

variable (h : Changes ahead device next)

include h

theorem cr2 : next.cr2 = device.cr2 := by
  cases h <;> rfl

theorem taken : next.taken = device.taken := by
  cases h <;> rfl

theorem stage (hStarting : device.stage ≠ .starting) (hAddressing : device.stage ≠ .addressing) :
    next.stage = device.stage := by
  cases h with
  | sb h => exact absurd h hStarting
  | addr h => exact absurd h hAddressing
  | _ => rfl

theorem starting (hStage : device.stage = .starting ∨ device.stage = .sb) :
    next.stage = .starting ∨ next.stage = .sb := by
  cases h with
  | sb _ => exact .inr rfl
  | addr h => exact absurd h (by obtain hStage | hStage := hStage <;> rw [hStage] <;> decide)
  | _ => exact hStage

theorem addressing (hStage : device.stage = .addressing ∨ device.stage = .addr) :
    next.stage = .addressing ∨ next.stage = .addr := by
  cases h with
  | sb h => exact absurd h (by obtain hStage | hStage := hStage <;> rw [hStage] <;> decide)
  | addr _ => exact .inr rfl
  | _ => exact hStage

theorem shows {f : I2cFlag} (hShows : device.shows f = true) : next.shows f = true := by
  cases h with
  | same => exact hShows
  | sb hStage =>
    cases f with
    | sb => rfl
    | addr => cases hStage.symm.trans (of_decide_eq_true hShows)
    | rxne => exact hShows
  | addr hStage =>
    cases f with
    | sb => cases hStage.symm.trans (of_decide_eq_true hShows)
    | addr => rfl
    | rxne => exact hShows
  | byte hStage hRoom =>
    cases f with
    | rxne =>
      rw [shows_rxne] at hShows ⊢
      exact Nat.lt_of_lt_of_le hShows (by simp)
    | _ => exact hShows

theorem cr1 (hStage : device.stage ≠ .starting) : next.cr1 = device.cr1 := by
  cases h with
  | sb h => exact absurd h hStage
  | _ => rfl

theorem sr1Read : next.sr1Read = device.sr1Read := by
  cases h <;> rfl

theorem acking : next.acking = device.acking := by
  cases h with
  | sb _ => exact getLsbD_and_not_bit_of_ne (by decide) (by decide)
  | _ => rfl

theorem serving (hServing : device.Serving len ahead) : next.Serving len ahead := by
  have hAcking := h.acking
  cases h with
  | same => exact hServing
  | sb hStage =>
    have hFresh := hServing.fresh (by rw [hStage]; decide)
    exact
      { hServing with
        fresh := fun _ => hFresh
        started := fun _ _ => getLsbD_and_not_bit_self (by decide)
        kept := fun hLt => hAcking.trans (hServing.kept hLt)
        due := fun hNot => hServing.due (hAcking.symm.trans hNot)
        before := nofun }
  | addr hStage =>
    have hFresh := hServing.fresh (by rw [hStage]; decide)
    exact
      { hServing with
        fresh := fun _ => hFresh
        started := fun _ _ => hServing.started (by rw [hStage]; decide) (by rw [hStage]; decide)
        before := nofun }
  | byte hStage hRoom =>
    refine
      { hServing with
        fresh := fun hNot => absurd hStage hNot
        taken_le := ?_
        due := ?_
        acked := ?_
        refused := ?_ }
    · rw [List.length_append]
      exact Nat.le_add_right_of_le hServing.taken_le
    · intro hNot
      rw [List.length_append]
      exact Nat.le_add_right_of_le (hServing.due hNot)
    · intro i hi hLt
      rw [List.length_append] at hLt
      obtain hOld | rfl := Nat.lt_succ_iff_lt_or_eq.mp hLt
      · rw [List.getElem?_append_left hOld]
        exact hServing.acked i hi hOld
      · rw [List.getElem?_append_right (Nat.le_refl _), Nat.sub_self, List.getElem?_cons_zero]
        cases hNow : device.acking with
        | true => rfl
        | false => exact absurd (hServing.due hNow) (Nat.not_le.mpr hi)
    · intro hLast answer hAnswer
      obtain hOld | hNew := Nat.lt_or_ge (len - 1) device.answers.length
      · rw [List.getElem?_append_left hOld] at hAnswer
        exact hServing.refused hLast answer hAnswer
      · have hSome := hServing.some_bytes
        have hTaken := hServing.taken_le
        have hIndex : len - 1 < device.answers.length + 1 := by
          have hLt := (List.getElem?_eq_some_iff.mp hAnswer).1
          rwa [List.length_append] at hLt
        have hEq : len - 1 = device.answers.length := by omega
        rw [hEq, List.getElem?_append_right (Nat.le_refl _), Nat.sub_self] at hAnswer
        obtain rfl := Option.some.inj hAnswer
        apply Bool.of_not_eq_true
        intro hNow
        have hTwo := hServing.before hStage hNow (by omega)
        omega

end Changes

/-- How much is still to happen until all bytes are received and read. -/
def left (len : Nat) (device : I2cDevice) : Nat :=
  device.stage.left + (len - device.taken) + (len - device.answers.length)

/-- A step brings the end nearer, or the flags that were set are set after it. -/
def Advances (len : Nat) (device next : I2cDevice) : Prop :=
  next.left len < device.left len ∨ next.left len = device.left len ∧
    next.stage = device.stage ∧ ∀ f, device.shows f = true → next.shows f = true

namespace Advances

theorem refl (device : I2cDevice) : Advances len device device := .inr ⟨rfl, rfl, fun _ => id⟩

theorem left_le (h : Advances len device next) : next.left len ≤ device.left len :=
  h.elim Nat.le_of_lt fun h => h.1.le

theorem of_eq (hStage : next.stage = device.stage) (hTaken : next.taken = device.taken)
    (hAnswers : next.answers = device.answers) : Advances len device next := by
  refine .inr ⟨?_, hStage, fun f hf => ?_⟩
  · rw [left, left, hStage, hTaken, hAnswers]
  · cases f with
    | sb => rwa [shows, hStage]
    | addr => rwa [shows, hStage]
    | rxne => rwa [shows, hTaken, hAnswers]

end Advances

theorem Changes.advances (h : Changes ahead device next) : Advances len device next := by
  cases h with
  | same => exact .refl device
  | sb hStage =>
    left
    simp only [left, hStage, I2cStage.left]
    omega
  | addr hStage =>
    left
    simp only [left, hStage, I2cStage.left]
    omega
  | byte hStage hRoom =>
    obtain hLt | hLe := Nat.lt_or_ge device.answers.length len
    · left
      simp only [left, List.length_append, List.length_singleton]
      omega
    · refine .inr ⟨?_, rfl, fun f => (Changes.byte hStage hRoom).shows⟩
      simp only [left, List.length_append, List.length_singleton]
      omega

section Responses

variable {words : Nat → U32} {i : I2cAccess} {w : U32}

theorem left_readSr2 (hStage : device.stage = .addr) (hRead : device.sr1Read = true) :
    (device.respond words .readSr2 w).2.left len < device.left len := by
  simp only [respond, left, hStage, hRead, and_self, if_true, I2cStage.left]
  omega

theorem left_writeDr {value : U32} (hStage : device.stage = .sb) :
    (device.respond words (.writeDr value) w).2.left len < device.left len := by
  simp only [respond, left, hStage, if_true, I2cStage.left]
  omega

theorem left_readDr (hThere : device.shows .rxne = true) (hLt : device.taken < len) :
    (device.respond words .readDr w).2.left len < device.left len := by
  rw [respond, if_pos hThere]
  simp only [left]
  omega

theorem Sound.advances (h : device.Sound len ahead i) :
    Advances len device (device.respond words i w).2 := by
  cases i with
  | writeCr1 value =>
    rw [respond]
    by_cases hStart : value.getLsbD i2cCr1Start = true
    · have hIdle : device.stage = .idle := by
        by_contra hNot
        exact h.noRestart ⟨hStart, hNot⟩
      left
      simp only [left, hStart, hIdle, if_true, I2cStage.left]
      omega
    · exact .of_eq (by rw [if_neg hStart]) rfl rfl
  | readSr2 =>
    by_cases hAddr : device.stage = .addr ∧ device.sr1Read = true
    · exact .inl (left_readSr2 hAddr.1 hAddr.2)
    · exact .of_eq (by rw [respond, if_neg hAddr]) rfl rfl
  | readDr =>
    obtain ⟨hThere, hLt, _⟩ := h.permitted
    exact .inl (left_readDr (shows_rxne.mpr hThere) hLt)
  | writeDr value =>
    by_cases hSb : device.stage = .sb
    · exact .inl (left_writeDr hSb)
    · exact .of_eq (by rw [respond, if_neg hSb]) rfl rfl
  | _ => exact .of_eq rfl rfl rfl

theorem Sound.left_add_taken_le (h : device.Sound len ahead i) :
    (device.respond words i w).2.left len + (device.respond words i w).2.taken ≤
      device.left len + device.taken := by
  have hLeft : (device.respond words i w).2.left len ≤ device.left len := h.advances.left_le
  cases i with
  | readDr =>
    obtain ⟨hThere, hLt, _⟩ := h.permitted
    have hLess : (device.respond words .readDr w).2.left len < device.left len :=
      left_readDr (shows_rxne.mpr hThere) hLt
    rw [respond, if_pos (shows_rxne.mpr hThere)] at hLess ⊢
    change _ + (device.taken + 1) ≤ _
    omega
  | _ => exact Nat.add_le_add_right hLeft _

namespace Serving

variable (h : device.Serving len ahead)

include h

theorem clocking_of_shows (hShows : device.shows .rxne = true) : device.stage = .clocking := by
  by_contra hNot
  obtain ⟨_, hAnswers⟩ := h.fresh hNot
  rw [shows_rxne, hAnswers] at hShows
  exact absurd hShows (Nat.not_lt_zero _)

theorem of_eq (hStage : next.stage = device.stage) (hCr1 : next.cr1 = device.cr1)
    (hTaken : next.taken = device.taken) (hAnswers : next.answers = device.answers) :
    next.Serving len ahead := by
  cases next
  obtain rfl := hStage
  obtain rfl := hCr1
  obtain rfl := hTaken
  obtain rfl := hAnswers
  exact { h with }

theorem two_of_acking (hAcking : len = 1 → device.acking = false) (hNow : device.acking = true) :
    2 ≤ len := by
  have hSome := h.some_bytes
  by_contra hNot
  rw [hAcking (by omega)] at hNow
  cases hNow

theorem readSr2 (hPermitted : device.Permitted len .readSr2) :
    (device.respond words .readSr2 w).2.Serving len ahead := by
  rw [respond]
  by_cases hAddr : device.stage = .addr ∧ device.sr1Read = true
  · obtain ⟨hStage, hRead⟩ := hAddr
    obtain ⟨hTaken, _⟩ := h.fresh (by rw [hStage]; decide)
    have hStart := h.started (by rw [hStage]; decide) (by rw [hStage]; decide)
    exact
      { h with
        fresh := fun hNot => by simp [hStage, hRead] at hNot
        started := fun _ _ => hStart
        before := by
          intro _ hNow _
          rw [hTaken]
          exact h.two_of_acking (fun hOne => hPermitted hOne hStage hRead) hNow }
  · rw [if_neg hAddr]
    exact { h with }

theorem readDr (hPermitted : device.Permitted len .readDr) :
    (device.respond words .readDr w).2.Serving len ahead := by
  obtain ⟨hThere, hLt, hLast⟩ := hPermitted
  rw [respond, if_pos (shows_rxne.mpr hThere)]
  exact
    { h with
      fresh := by
        intro hNot
        obtain ⟨_, hAnswers⟩ := h.fresh hNot
        rw [hAnswers] at hThere
        exact absurd hThere (Nat.not_lt_zero _)
      taken_le := hThere
      kept := fun hMore => h.kept (Nat.lt_of_succ_lt (Nat.succ_add _ 2 ▸ hMore))
      before := by
        intro hStage hNow _
        have hTwo := h.before hStage hNow hLt
        have hNot : device.taken + 2 ≠ len := fun hEq => by
          rw [show device.acking = true from hNow] at hLast
          exact absurd (hLast hEq) (by decide)
        change device.taken + 1 + 2 ≤ len
        omega }

theorem writeDr {value : U32} : (device.respond words (.writeDr value) w).2.Serving len ahead := by
  rw [respond]
  by_cases hSb : device.stage = .sb
  · have hFresh := h.fresh (by rw [hSb]; decide)
    have hStart := h.started (by rw [hSb]; decide) (by rw [hSb]; decide)
    exact
      { h with
        fresh := fun _ => hFresh
        started := fun _ _ => hStart
        before := by simp [hSb] }
  · rw [if_neg hSb]
    exact { h with }

theorem writeCr1 {value : U32}
    (hStart : value.getLsbD i2cCr1Start = true → device.stage = .idle)
    (hKept : device.taken + 2 < len → value.getLsbD i2cCr1Ack = true)
    (hDue : value.getLsbD i2cCr1Ack = false → len ≤ device.answers.length + 1)
    (hBefore : device.stage = .clocking → value.getLsbD i2cCr1Ack = true → device.taken < len →
      device.taken + 2 ≤ len) :
    (device.respond words (.writeCr1 value) w).2.Serving len ahead := by
  rw [respond]
  cases hValue : value.getLsbD i2cCr1Start with
  | true =>
    have hFresh := h.fresh (by rw [hStart hValue]; decide)
    exact
      { h with
        fresh := fun _ => hFresh
        started := fun _ hNot => absurd rfl hNot
        kept := hKept
        due := hDue
        before := nofun }
  | false =>
    exact
      { h with
        started := fun _ _ => hValue
        kept := hKept
        due := hDue
        before := hBefore }

theorem writeStart (hIdle : device.stage = .idle) :
    (device.respond words (.writeCr1 (device.cr1 ||| bit i2cCr1Start)) w).2.Serving len ahead := by
  have hAck : (device.cr1 ||| bit i2cCr1Start).getLsbD i2cCr1Ack = device.acking :=
    getLsbD_or_bit_of_ne (by decide) (by decide)
  refine h.writeCr1 (fun _ => hIdle) ?_ ?_ ?_
  · exact fun hLt => hAck.trans (h.kept hLt)
  · exact fun hNot => h.due (hAck.symm.trans hNot)
  · intro hClocking
    cases hIdle.symm.trans hClocking

end Serving
end Responses

theorem sr1_sb {w : U32} : (device.sr1 w).getLsbD i2cSr1Sb = device.shows .sb := by
  rw [sr1, getLsbD_withBit_self (by decide)]

theorem sr1_addr {w : U32} : (device.sr1 w).getLsbD i2cSr1Addr = device.shows .addr := by
  rw [sr1, getLsbD_withBit_of_ne (by decide) (by decide), getLsbD_withBit_self (by decide)]

theorem sr1_rxne {w : U32} : (device.sr1 w).getLsbD i2cSr1Rxne = device.shows .rxne := by
  rw [sr1, getLsbD_withBit_of_ne (by decide) (by decide),
    getLsbD_withBit_of_ne (by decide) (by decide), getLsbD_withBit_self (by decide)]

theorem sr1_stopf {w : U32} : (device.sr1 w).getLsbD i2cSr1Stopf = false := by
  rw [sr1, getLsbD_withBit_of_ne (by decide) (by decide),
    getLsbD_withBit_of_ne (by decide) (by decide), getLsbD_withBit_of_ne (by decide) (by decide),
    getLsbD_withBit_self (by decide)]

theorem sr2_msl {w : U32} (hIdle : device.stage ≠ .idle) (hStarting : device.stage ≠ .starting) :
    (device.sr2 w).getLsbD i2cSr2Msl = true := by
  rw [sr2, if_neg (not_or.mpr ⟨hIdle, hStarting⟩), getLsbD_withBit_self (by decide)]

theorem sr1_bit {w : U32} {f : I2cFlag} : (device.sr1 w).getLsbD f.bit = device.shows f := by
  cases f with
  | sb => exact sr1_sb
  | addr => exact sr1_addr
  | rxne => exact sr1_rxne

end I2cDevice

/-- The program makes only accesses that it may make, and `Q` holds in the end. -/
abbrev I2cTriple {α : Type} (words : Nat → U32) (len ahead : Nat) (A : I2cDevice → Prop)
    (p : I2cProg α) (Q : α → I2cDevice → Prop) : Prop :=
  (i2cDevice words ahead).Triple (fun i device => device.Sound len ahead i) A p Q

def I2cStable (ahead : Nat) (A : I2cDevice → Prop) : Prop :=
  ∀ e device, A device → A (device.occur ahead e)

namespace I2cProg

open I2cDevice

variable {words : Nat → U32} {len ahead : Nat} {A B : I2cDevice → Prop} {α : Type}
  {Q : α → I2cDevice → Prop}

theorem triple_pure {a : α} (hStable : I2cStable ahead (Q a)) (h : ∀ device, A device →
    Q a device) : I2cTriple words len ahead A (.pure a) Q :=
  .pure hStable h

section Parts

variable (hStable : I2cStable ahead A) (hServing : ∀ device, A device → device.Serving len ahead)

include hStable hServing

theorem triple_readSr1 {next : U32 → I2cProg α} {C : U32 → I2cDevice → Prop}
    (hRead : ∀ device w, A device → C (device.sr1 w) { device with sr1Read := true })
    (hNext : ∀ sr1, I2cTriple words len ahead (C sr1) (next sr1) Q) :
    I2cTriple words len ahead A (perform .readSr1 >>= next) Q :=
  .access hStable (fun device h => ⟨hServing device h, trivial, id⟩) hRead hNext

theorem triple_readSr2 {next : U32 → I2cProg α} {C : U32 → I2cDevice → Prop}
    (hPermitted : ∀ device, A device → device.Permitted len .readSr2)
    (hRead : ∀ device w, A device → C (device.sr2 w) (device.respond words .readSr2 w).2)
    (hNext : ∀ sr2, I2cTriple words len ahead (C sr2) (next sr2) Q) :
    I2cTriple words len ahead A (perform .readSr2 >>= next) Q :=
  .access hStable (fun device h => ⟨hServing device h, hPermitted device h, id⟩) hRead hNext

theorem triple_readCr2 {next : U32 → I2cProg α} {C : U32 → Prop}
    (hRead : ∀ device, A device → C device.cr2)
    (hNext : ∀ cr2, C cr2 → I2cTriple words len ahead A (next cr2) Q) :
    I2cTriple words len ahead A (perform .readCr2 >>= next) Q := by
  refine .access hStable (fun device h => ⟨hServing device h, trivial, id⟩)
    (C := fun cr2 device => C cr2 ∧ A device) (fun device _ h => ⟨hRead device h, h⟩) fun cr2 => ?_
  exact .assuming (fun _ => And.left) fun hCr2 =>
    (hNext cr2 hCr2).consequence (fun _ => And.right) fun _ _ => id

theorem triple_readDr {next : U32 → I2cProg α} {C : U32 → I2cDevice → Prop}
    (hPermitted : ∀ device, A device → device.Permitted len .readDr)
    (hRead : ∀ device, A device → C (words device.taken)
      { device with taken := device.taken + 1 })
    (hNext : ∀ dr, I2cTriple words len ahead (C dr) (next dr) Q) :
    I2cTriple words len ahead A (perform .readDr >>= next) Q := by
  refine .access hStable (fun device h => ⟨hServing device h, hPermitted device h, id⟩) ?_ hNext
  intro device w h
  change C (device.respond words .readDr w).1 (device.respond words .readDr w).2
  rw [respond, if_pos (shows_rxne.mpr (hPermitted device h).1)]
  exact hRead device h

theorem triple_writeDr {value : U32} (hB : I2cStable ahead B)
    (hWrite : ∀ device, A device → B (device.respond words (.writeDr value) 0).2) :
    I2cTriple words len ahead A (perform (.writeDr value) >>= fun _ => pure ()) fun _ => B :=
  .access hStable (fun device h => ⟨hServing device h, trivial, id⟩)
    (fun device _ h => hWrite device h) fun _ => triple_pure hB fun _ => id

theorem triple_modifyCr1 {f : U32 → U32} (hB : I2cStable ahead B)
    (hHeld : ∀ device, A device → device.stage ≠ .starting)
    (hStart : ∀ device, A device → (f device.cr1).getLsbD i2cCr1Start = true →
      device.stage = .idle)
    (hWrite : ∀ device, A device → B (device.respond words (.writeCr1 (f device.cr1)) 0).2) :
    I2cTriple words len ahead A
      (perform .readCr1 >>= fun cr1 => perform (.writeCr1 (f cr1)) >>= fun _ => pure ())
      fun _ => B := by
  refine .access hStable (C := fun cr1 device => A device ∧ device.cr1 = cr1)
    (fun device h => ⟨hServing device h, trivial, id⟩) (fun _ _ h => ⟨h, rfl⟩) fun cr1 => ?_
  refine .access (C := fun _ => B) ?_ ?_ ?_ fun _ => triple_pure hB fun _ => id
  · rintro e device ⟨h, rfl⟩
    exact ⟨hStable e device h, (changes_occur).cr1 (hHeld device h)⟩
  · rintro device ⟨h, rfl⟩
    refine ⟨hServing device h, trivial, ?_⟩
    rintro ⟨hValue, hNot⟩
    exact hNot (hStart device h hValue)
  · rintro device w ⟨h, rfl⟩
    exact hWrite device h

theorem triple_modifyCr2 {f : U32 → U32} (hB : I2cStable ahead B)
    (hWrite : ∀ device, A device → B { device with cr2 := f device.cr2 }) :
    I2cTriple words len ahead A
      (perform .readCr2 >>= fun cr2 => perform (.writeCr2 (f cr2)) >>= fun _ => pure ())
      fun _ => B := by
  refine .access hStable (C := fun cr2 device => A device ∧ device.cr2 = cr2)
    (fun device h => ⟨hServing device h, trivial, id⟩) (fun _ _ h => ⟨h, rfl⟩) fun cr2 => ?_
  refine .access (C := fun _ => B) ?_ ?_ ?_ fun _ => triple_pure hB fun _ => id
  · rintro e device ⟨h, rfl⟩
    exact ⟨hStable e device h, (changes_occur).cr2⟩
  · rintro device ⟨h, rfl⟩
    exact ⟨hServing device h, trivial, id⟩
  · rintro device w ⟨h, rfl⟩
    exact hWrite device h

theorem triple_awaitFlag {f : I2cFlag} (e : I2cChange)
    (hRead : ∀ device, A device → A { device with sr1Read := true })
    (hOccur : ∀ device, A device → (device.occur ahead e).shows f = true) :
    I2cTriple words len ahead A (awaitFlag f.bit)
      fun _ device => A device ∧ device.shows f = true := by
  have hShown : I2cStable ahead fun device => A device ∧ device.shows f = true :=
    fun e device h => ⟨hStable e device h.1, changes_occur.shows h.2⟩
  refine .await e hStable (fun device h => ⟨hServing device h, trivial, id⟩) ?_ hOccur hShown ?_ ?_
    (triple_pure hShown fun _ => id)
  · exact fun device _ h _ => hRead device h
  · exact fun device w _ hShows => sr1_bit.trans hShows
  · exact fun device w h hReady => ⟨hRead device h, sr1_bit.symm.trans hReady⟩

end Parts

end I2cProg

end KoRTOS.Hal
