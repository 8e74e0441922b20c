import KoRTOS.Hal.I2c
import Mathlib.Logic.Function.Basic

/-!
# The I2C driver: errors

`I2C_ER_IRQ_handling`, one access to a register at a time. The hardware may set
an error in `SR1` between any two accesses, and the errors are cleared by the
zeros that are written to them; ones that are written change nothing.
-/

namespace KoRTOS.Hal

open RegisterBits

inductive I2cError where
  | berr
  | arlo
  | af
  | ovr
  | pecerr
  | timeout
  | smbalert
  deriving DecidableEq, Repr

namespace I2cError

def pos : I2cError → Nat
  | berr => 8
  | arlo => 9
  | af => 10
  | ovr => 11
  | pecerr => 12
  | timeout => 14
  | smbalert => 15

/-- The order in which the handler looks at them. -/
def all : List I2cError := [berr, arlo, af, ovr, pecerr, timeout, smbalert]

/-- The bits of `SR1` that are cleared by software. -/
def msk : U32 := 0xDF00#32

end I2cError

/-- What an invocation of the handler does next: it reads `CR2`, and for each error `SR1`; an error
that is set is acknowledged by reading `SR1` again and writing it back without this error. -/
inductive ErCall where
  | returned
  | entered
  | testing (temp1 : Bool) (rest : List I2cError)
  | reading (error : I2cError) (rest : List I2cError)
  | writing (error : I2cError) (value : U32) (rest : List I2cError)

def ErCall.next (temp1 : Bool) : List I2cError → ErCall
  | [] => .returned
  | error :: rest => .testing temp1 (error :: rest)

/-- The registers and the handler, with the errors that were reported, how often each error came
up, and how often it did so between the two accesses that acknowledge another error. -/
structure I2cEr where
  sr1 : U32
  cr2 : U32
  call : ErCall
  events : List I2cError
  raised : I2cError → Nat
  hit : I2cError → Nat

/-- `status` stands for the other bits of `SR1`, `control` for what the rest of the program writes
to `CR2`. -/
inductive ErEvent where
  | raise (error : I2cError)
  | status (value : U32)
  | control (value : U32)
  | interrupt
  | access

def ErEvent.isAccess : ErEvent → Bool
  | .access => true
  | _ => false

namespace I2cEr

def start (sr1 cr2 : U32) : I2cEr where
  sr1 := sr1 &&& ~~~I2cError.msk
  cr2 := cr2
  call := .returned
  events := []
  raised := fun _ => 0
  hit := fun _ => 0

/-- The next write acknowledges another error with a value that was read without this one. -/
def doomed (error : I2cError) (er : I2cEr) : Bool :=
  match er.call with
  | .writing other value _ => decide (error ≠ other) && !value.getLsbD error.pos
  | _ => false

def raise (error : I2cError) (er : I2cEr) : I2cEr :=
  if er.sr1.getLsbD error.pos then er
  else
    { er with
      sr1 := er.sr1 ||| bit error.pos
      raised := Function.update er.raised error (er.raised error + 1)
      hit :=
        if er.doomed error then Function.update er.hit error (er.hit error + 1) else er.hit }

/-- The next access of the handler. The callback follows the write that clears the error. -/
def access (er : I2cEr) : I2cEr :=
  match er.call with
  | .returned => er
  | .entered => { er with call := .next (er.cr2.getLsbD i2cCr2Iterren) I2cError.all }
  | .testing _ [] => { er with call := .returned }
  | .testing temp1 (error :: rest) =>
    { er with
      call :=
        if temp1 && er.sr1.getLsbD error.pos then .reading error rest else .next temp1 rest }
  | .reading error rest => { er with call := .writing error (er.sr1 &&& ~~~bit error.pos) rest }
  | .writing error value rest =>
    { er with
      sr1 := er.sr1 &&& (value ||| ~~~I2cError.msk)
      events := er.events ++ [error]
      call := .next true rest }

def step (event : ErEvent) (er : I2cEr) : I2cEr :=
  match event with
  | .raise error => er.raise error
  | .status value =>
    { er with sr1 := er.sr1 &&& I2cError.msk ||| value &&& ~~~I2cError.msk }
  | .control value => { er with cr2 := value }
  | .interrupt =>
    match er.call with
    | .returned => { er with call := .entered }
    | _ => er
  | .access => er.access

def run (events : List ErEvent) (er : I2cEr) : I2cEr := events.foldl (fun er e => er.step e) er

end I2cEr
end KoRTOS.Hal
