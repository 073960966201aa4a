import KernelWait.Text.Numeral

/-!
# Signals

The signals that threads send each other, by number and name. Two of them, which kill and stop a
thread, can be neither caught nor blocked.

**Reading a number undoes writing it** (`Signal.ofNumber_number`), and no other number stands for a
signal (`Signal.ofNumber_eq_ok_iff`).
-/

namespace KernelWait

/-- The number of a thread. -/
abbrev ThreadId := UInt32

/-- A signal. -/
inductive Signal where
  /-- the controlling terminal has hung up -/
  | hup
  /-- interrupt from the keyboard -/
  | int
  /-- quit from the keyboard -/
  | quit
  /-- ends the thread; cannot be caught -/
  | kill
  /-- the first signal without a fixed meaning -/
  | usr1
  /-- the second signal without a fixed meaning -/
  | usr2
  /-- a pipe is broken -/
  | pipe
  /-- a timer has run out -/
  | alrm
  /-- asks the thread to end -/
  | term
  /-- a child has stopped or ended -/
  | chld
  /-- lets a stopped thread go on -/
  | cont
  /-- stops the thread; cannot be caught -/
  | stop
  deriving DecidableEq, Repr, Inhabited

/-- Why a signal operation is refused. -/
inductive SignalError where
  /-- no signal has this number -/
  | invalidSignal (number : UInt32)
  /-- the signal cannot be blocked -/
  | unblockable (signal : Signal)
  /-- too many signals are pending for the thread -/
  | queueFull (thread : ThreadId)
  deriving DecidableEq, Repr

namespace Signal

/-- All signals, by rising number. -/
def all : List Signal :=
  [hup, int, quit, kill, usr1, usr2, pipe, alrm, term, chld, cont, stop]

/-- The number of a signal. -/
def number : Signal → UInt32
  | hup => 1
  | int => 2
  | quit => 3
  | kill => 9
  | usr1 => 10
  | usr2 => 12
  | pipe => 13
  | alrm => 14
  | term => 15
  | chld => 17
  | cont => 18
  | stop => 19

/-- The name of a signal. -/
def name : Signal → String
  | hup => "SIGHUP"
  | int => "SIGINT"
  | quit => "SIGQUIT"
  | kill => "SIGKILL"
  | usr1 => "SIGUSR1"
  | usr2 => "SIGUSR2"
  | pipe => "SIGPIPE"
  | alrm => "SIGALRM"
  | term => "SIGTERM"
  | chld => "SIGCHLD"
  | cont => "SIGCONT"
  | stop => "SIGSTOP"

/-- The signal with a name. -/
def ofName? (name : String) : Option Signal := all.find? (·.name == name)

/-- The signal with a number. -/
def ofNumber (number : UInt32) : Except SignalError Signal :=
  match all.find? (·.number == number) with
  | some signal => .ok signal
  | none => .error (.invalidSignal number)

/-- Whether a thread may catch or block the signal. -/
def canCatch : Signal → Bool
  | kill | stop => false
  | _ => true

/-- The name and number of a signal. -/
def text (s : Signal) : String :=
  s.name ++ "(" ++ Text.natText s.number.toNat ++ ")"

theorem ofNumber_number (s : Signal) : ofNumber s.number = .ok s := by
  cases s <;> rfl

/-- Only the number of a signal stands for it. -/
theorem ofNumber_eq_ok_iff {number : UInt32} {s : Signal} :
    ofNumber number = .ok s ↔ number = s.number := by
  constructor
  · intro h
    unfold ofNumber at h
    split at h
    · next signal found =>
      injection h with h
      subst h
      have := List.find?_some found
      exact (beq_iff_eq.1 this).symm
    · simp at h
  · rintro rfl
    exact ofNumber_number s

end Signal

/-- The wording of a refusal. -/
def SignalError.message : SignalError → String
  | invalidSignal number => "Invalid signal: " ++ Text.natText number.toNat
  | unblockable signal => "Signal cannot be blocked: " ++ signal.text
  | queueFull thread =>
    "Queue full: thread " ++ Text.natText thread.toNat ++ " has too many pending signals"

/-- A signal that waits to be taken. -/
structure PendingSignal where
  /-- the signal -/
  signal : Signal
  /-- the thread that sent it -/
  sender : ThreadId
  /-- when it was sent, on the kernel clock -/
  timestamp : Int64
  deriving DecidableEq, Repr

/-- Counts over all signals. -/
structure SignalStats where
  /-- signals sent -/
  sent : UInt64
  /-- signals taken by their threads -/
  delivered : UInt64
  /-- waits aborted by a signal -/
  interrupted : UInt64
  /-- signals that wait to be taken -/
  pending : Nat
  deriving DecidableEq, Repr

end KernelWait
