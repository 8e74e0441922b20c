import Mathlib.Data.List.Basic
import Mathlib.Logic.Function.Basic

/-!
# What semaphores, mutexes and queues are for

Counting semaphores, mutexes and bounded queues with the tasks that wait for them, as
their users see them: a request is answered at once, refused, or put in a list from which
it is served later. Of time and of who runs nothing is said: a waiter can give up at any
time, and `urgency` is whatever ranks the tasks at that moment.
-/

namespace Synchronization

variable {T S M Q α : Type*}

/-- The lists in which tasks wait: for a token, for a mutex, for room in a queue or for an item. -/
inductive Place (S M Q : Type*) where
  | token (i : S)
  | mutex (i : M)
  | room (q : Q)
  | item (q : Q)
  deriving DecidableEq

inductive Request (S M Q α : Type*) where
  | take (i : S)
  | give (i : S)
  | lock (i : M)
  | unlock (i : M)
  | put (q : Q) (x : α)
  | get (q : Q)
  deriving DecidableEq

inductive Answer (α : Type*) where
  | done
  | got (x : α)
  | refused
  deriving DecidableEq

/-- Where a task stands: in no request, in a list, or about to hear how it left the list. -/
inductive Phase (S M Q α : Type*) where
  | outside
  | waits (r : Request S M Q α)
  | served (r : Request S M Q α)
  | late (r : Request S M Q α)
  deriving DecidableEq

inductive Discipline where
  | oldest
  | foremost

structure Objects (T S M Q α : Type*) where
  tokens : S → Nat
  owner : M → Option T
  items : Q → List α
  capacity : Q → Nat
  waiting : Place S M Q → List T
  discipline : Place S M Q → Discipline
  phase : T → Phase S M Q α

namespace Request

/-- The list that the request joins if it can not be served. -/
def place : Request S M Q α → Option (Place S M Q)
  | take i => some (.token i)
  | lock i => some (.mutex i)
  | put q _ => some (.room q)
  | get q => some (.item q)
  | give _ => none
  | unlock _ => none

/-- A task released from a queue asks again; the others have been given what they asked for. -/
def again : Request S M Q α → Bool
  | put _ _ => true
  | get _ => true
  | _ => false

end Request

def Phase.expire : Phase S M Q α → Phase S M Q α
  | waits r => late r
  | p => p

namespace Objects

def empty : Objects T S M Q α where
  tokens _ := 0
  owner _ := none
  items _ := []
  capacity _ := 0
  waiting _ := []
  discipline _ := .oldest
  phase _ := .outside

/-- The object has what the request of `who` asks for. -/
def Ready (o : Objects T S M Q α) (who : Option T) : Request S M Q α → Prop
  | .take i => o.tokens i ≠ 0
  | .give _ => True
  | .lock i => who ≠ none ∧ o.owner i = none
  | .unlock i => who ≠ none ∧ o.owner i = who
  | .put q _ => (o.items q).length < o.capacity q
  | .get q => o.items q ≠ []

variable [DecidableEq T] [DecidableEq S] [DecidableEq M] [DecidableEq Q]

def setPhase (o : Objects T S M Q α) (t : T) (p : Phase S M Q α) : Objects T S M Q α :=
  { o with phase := Function.update o.phase t p }

def setWaiting (o : Objects T S M Q α) (p : Place S M Q) (l : List T) : Objects T S M Q α :=
  { o with waiting := Function.update o.waiting p l }

def setTokens (o : Objects T S M Q α) (i : S) (n : Nat) : Objects T S M Q α :=
  { o with tokens := Function.update o.tokens i n }

def setOwner (o : Objects T S M Q α) (i : M) (owner : Option T) : Objects T S M Q α :=
  { o with owner := Function.update o.owner i owner }

def setItems (o : Objects T S M Q α) (q : Q) (l : List α) : Objects T S M Q α :=
  { o with items := Function.update o.items q l }

def setDiscipline (o : Objects T S M Q α) (p : Place S M Q) (d : Discipline) :
    Objects T S M Q α :=
  { o with discipline := Function.update o.discipline p d }

/-- Who asks may be no task but an interrupt handler. -/
def leave (o : Objects T S M Q α) : Option T → Objects T S M Q α
  | some t => o.setPhase t .outside
  | none => o

def join (o : Objects T S M Q α) (t : T) (r : Request S M Q α) (p : Place S M Q) :
    Objects T S M Q α :=
  (o.setWaiting p (o.waiting p ++ [t])).setPhase t (.waits r)

def expire (o : Objects T S M Q α) (gone : T → Bool) : Objects T S M Q α :=
  { o with
    waiting := fun p => (o.waiting p).filter fun t => !gone t
    phase := fun t => if gone t then (o.phase t).expire else o.phase t }

end Objects

/-- Task `t` is the one to be served of `before ++ t :: after`. -/
def Next (urgency : T → Nat) (before : List T) (t : T) (after : List T) : Discipline → Prop
  | .oldest => before = []
  | .foremost => (∀ u ∈ before, urgency t < urgency u) ∧ ∀ u ∈ after, urgency t ≤ urgency u

section Steps

variable [DecidableEq T] [DecidableEq S] [DecidableEq M] [DecidableEq Q]

/-- The waiter of place `p` whose turn it is, if there is one, is taken out of the list. -/
inductive Releases (urgency : T → Nat) (o : Objects T S M Q α) (p : Place S M Q) :
    Option T → Objects T S M Q α → Prop
  | nobody (hEmpty : o.waiting p = []) : Releases urgency o p none o
  | next {before after : List T} {t : T} {r : Request S M Q α}
      (hSplit : o.waiting p = before ++ t :: after)
      (hNext : Next urgency before t after (o.discipline p)) (hWaits : o.phase t = .waits r) :
      Releases urgency o p (some t)
        ((o.setWaiting p (before ++ after)).setPhase t (.served r))

/-- The request of `who` is served: a token and a mutex are handed to who waits for them,
who waits for a queue is only told to look again. -/
inductive Serves (urgency : T → Nat) (o : Objects T S M Q α) (who : Option T) :
    Request S M Q α → Answer α → Objects T S M Q α → Prop
  | take {i n} (hToken : o.tokens i = n + 1) :
      Serves urgency o who (.take i) .done (o.setTokens i n)
  | give {i} (hEmpty : o.waiting (.token i) = []) :
      Serves urgency o who (.give i) .done (o.setTokens i (o.tokens i + 1))
  | giveTo {i t o'} (h : Releases urgency o (.token i) (some t) o') :
      Serves urgency o who (.give i) .done o'
  | lock {i} (hFree : o.Ready who (.lock i)) :
      Serves urgency o who (.lock i) .done (o.setOwner i who)
  | unlock {i} (hOwner : o.Ready who (.unlock i)) (hEmpty : o.waiting (.mutex i) = []) :
      Serves urgency o who (.unlock i) .done (o.setOwner i none)
  | handOver {i t o'} (hOwner : o.Ready who (.unlock i))
      (h : Releases urgency o (.mutex i) (some t) o') :
      Serves urgency o who (.unlock i) .done (o'.setOwner i (some t))
  | put {q x t o'} (hRoom : (o.items q).length < o.capacity q)
      (h : Releases urgency (o.setItems q (o.items q ++ [x])) (.item q) t o') :
      Serves urgency o who (.put q x) .done o'
  | get {q x l t o'} (hItem : o.items q = x :: l)
      (h : Releases urgency (o.setItems q l) (.room q) t o') :
      Serves urgency o who (.get q) (.got x) o'

/-- A request is served, refused or made to wait; the last two only if it can not be served,
and a task does not wait for a mutex of its own. -/
inductive Tries (urgency : T → Nat) (o : Objects T S M Q α) (who : Option T)
    (r : Request S M Q α) : Option (Answer α) → Objects T S M Q α → Prop
  | serve {a o'} (h : Serves urgency o who r a o') : Tries urgency o who r (some a) (o'.leave who)
  | refuse (h : ¬ o.Ready who r) : Tries urgency o who r (some .refused) (o.leave who)
  | wait {t p} (hWho : who = some t) (hPlace : r.place = some p) (h : ¬ o.Ready who r)
      (hOther : ∀ i, r = .lock i → o.owner i ≠ some t) : Tries urgency o who r none (o.join t r p)

inductive Action (T S M Q α : Type*) where
  | ask (who : Option T) (r : Request S M Q α) (answer : Option (Answer α))
  | goOn (t : T) (answer : Option (Answer α))
  | newSemaphore (i : S) (n : Nat) (d : Discipline)
  | newMutex (i : M) (d : Discipline)
  | newQueue (q : Q) (capacity : Nat) (d : Discipline)
  | clock
  | silent

/-- What is done before the tasks run. -/
def Action.prepares : Action T S M Q α → Bool
  | newSemaphore _ _ _ => true
  | newMutex _ _ => true
  | newQueue _ _ _ => true
  | silent => true
  | _ => false

inductive Step (urgency : T → Nat) (o : Objects T S M Q α) :
    Action T S M Q α → Objects T S M Q α → Prop
  | ask {who r a o'} (hOutside : ∀ t, who = some t → o.phase t = .outside)
      (h : Tries urgency o who r a o') : Step urgency o (.ask who r a) o'
  | again {t r a o'} (hServed : o.phase t = .served r) (hAgain : r.again = true)
      (h : Tries urgency o (some t) r a o') : Step urgency o (.goOn t a) o'
  | granted {t r} (hServed : o.phase t = .served r) (hGiven : r.again = false) :
      Step urgency o (.goOn t (some .done)) (o.leave (some t))
  | late {t r} (hLate : o.phase t = .late r) :
      Step urgency o (.goOn t (some .refused)) (o.leave (some t))
  | newSemaphore {i n d} (hEmpty : o.waiting (.token i) = []) :
      Step urgency o (.newSemaphore i n d) ((o.setTokens i n).setDiscipline (.token i) d)
  | newMutex {i d} (hFree : o.owner i = none) (hEmpty : o.waiting (.mutex i) = []) :
      Step urgency o (.newMutex i d) (o.setDiscipline (.mutex i) d)
  | newQueue {q n d} (hRoom : o.waiting (.room q) = []) (hItem : o.waiting (.item q) = []) :
      Step urgency o (.newQueue q n d)
        { (((o.setItems q []).setDiscipline (.room q) d).setDiscipline (.item q) d) with
          capacity := Function.update o.capacity q n }
  | clock (gone : T → Bool) : Step urgency o .clock (o.expire gone)
  | silent : Step urgency o .silent o

/-- A history of the objects: each step with what ranked the tasks at that moment. -/
inductive Run (o : Objects T S M Q α) :
    List ((T → Nat) × Action T S M Q α) → Objects T S M Q α → Prop
  | nil : Run o [] o
  | snoc {trace o₁ o₂ urgency a} (h : Run o trace o₁) (hStep : Step urgency o₁ a o₂) :
      Run o (trace ++ [(urgency, a)]) o₂

end Steps

end Synchronization
