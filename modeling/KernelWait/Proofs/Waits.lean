import KernelWait.Proofs.Schedule
import KernelWait.Proofs.Teardown

/-!
# Waits in every form

A wait is made by a request to a multiplexer, over typed watches, or over raw entries. The form decides
what its caller gets back, and nothing else: in between a wait is a call, which makes its steps among the
operations of other threads (`Wait.turn`).

**A wait is a call**, seen in one of the forms (`Wait.play_typed`, `Wait.play_raw`).
-/

namespace KernelWait

/-- What a wait tells its caller. -/
inductive Response where
  /-- an answer and the watches -/
  | typed (reply : Reply)
  /-- a number and the entries -/
  | raw (reply : RawReply)

/-- How far a wait has come. -/
inductive Wait where
  /-- a wait over watches -/
  | typed (progress : Progress)
  /-- a wait over raw entries -/
  | raw (progress : RawProgress)

/-- Makes a wait: it begins, or it is over at once. -/
def Invocation.begin (s : System) : Invocation → System × Wait
  | multiplexer request =>
    let (s', progress) := s.begin request
    (s', .typed progress)
  | typed thread watches flags value =>
    let (s', progress) := s.enter thread watches flags value
    (s', .typed progress)
  | raw request =>
    let (s', progress) := s.enterRaw request
    (s', .raw progress)

namespace Wait

/-- The call of a wait, while it is in progress. -/
def call? : Wait → Option Call
  | typed progress => progress.call?
  | raw progress => progress.call?

/-- What a wait has told its caller, once it is over. -/
def response? : Wait → Option Response
  | typed (.returned reply) => some (.typed reply)
  | raw (.returned reply) => some (.raw reply)
  | _ => none

/-- The wait when its call has come so far. -/
def after : Wait → Progress → Wait
  | typed (.running _), progress => typed progress
  | raw (.running c), progress => raw (.of c.entries c.decoded progress)
  | ended, _ => ended

/-- One step of a wait in progress. -/
def step (s : System) (w : Wait) : System × Wait :=
  match w.call? with
  | none => (s, w)
  | some c =>
    let (s', progress) := c.step s
    (s', w.after progress)

/-- A system and a wait in it after one turn. -/
def turn : System × Wait → Turn Operation → System × Wait
  | (s, w), .other op => ({ s with kernel := op.effect s.kernel }, w)
  | (s, w), .own => w.step s

/-- A system and a wait in it after the turns of a schedule. -/
def play (p : System × Wait) (schedule : List (Turn Operation)) : System × Wait :=
  schedule.foldl turn p

/-! ## A wait and its call -/

theorem call?_after {w : Wait} {c : Call} (h : w.call? = some c) (progress : Progress) :
    (w.after progress).call? = progress.call? := by
  rcases w with (c | reply) | (c | reply)
  · rfl
  · cases h
  · exact RawProgress.call?_of _ _ _
  · cases h

/-- A wait in progress has told its caller nothing. -/
theorem response?_of_call {w : Wait} {c : Call} (h : w.call? = some c) : w.response? = none := by
  rcases w with (c | reply) | (c | reply)
  · rfl
  · cases h
  · rfl
  · cases h

theorem call?_of_returned (w : Wait) (reply : Reply) : (w.after (.returned reply)).call? = none := by
  rcases w with (c | reply) | (c | reply) <;> rfl

/-- It does not matter by which steps the call has come there. -/
theorem after_after {w : Wait} {c : Call} (h : w.call? = some c) (between : Call)
    (progress : Progress) : (w.after (.running between)).after progress = w.after progress := by
  rcases w with (c | reply) | (c | reply)
  · rfl
  · cases h
  · rfl
  · cases h

theorem step_of_call {w : Wait} {c : Call} (h : w.call? = some c) (s : System) :
    w.step s = ((c.step s).1, w.after (c.step s).2) := by
  simp only [step, h]

theorem step_of_over {w : Wait} (h : w.call? = none) (s : System) : w.step s = (s, w) := by
  simp only [step, h]

theorem play_concat (p : System × Wait) (earlier : List (Turn Operation)) (t : Turn Operation) :
    play p (earlier ++ [t]) = turn (play p earlier) t := List.foldl_append

/-- A typed wait among other threads is a call among them. -/
theorem play_typed (s : System) (progress : Progress) (schedule : List (Turn Operation)) :
    play (s, typed progress) schedule =
      ((System.play (s, progress) schedule).1, typed (System.play (s, progress) schedule).2) := by
  induction schedule using List.reverseRecOn with
  | nil => rfl
  | append_singleton schedule t ih =>
    rw [play_concat, System.play_concat, ih]
    rcases System.play (s, progress) schedule with ⟨s₁, c | reply⟩ <;> cases t <;> rfl

/-- **A raw wait among other threads is a call among them**, and its reply is written back. -/
theorem play_raw (s : System) (entries : List RawEntry) (decoded : List (Option Watch))
    (progress : Progress) (schedule : List (Turn Operation)) :
    play (s, raw (.of entries decoded progress)) schedule =
      ((System.play (s, progress) schedule).1,
        raw (.of entries decoded (System.play (s, progress) schedule).2)) := by
  induction schedule using List.reverseRecOn with
  | nil => rfl
  | append_singleton schedule t ih =>
    rw [play_concat, System.play_concat, ih]
    rcases System.play (s, progress) schedule with ⟨s₁, c | reply⟩ <;> cases t <;> rfl

/-- A wait that is over stays so. -/
theorem play_of_over {w : Wait} (h : w.call? = none) (s : System)
    (schedule : List (Turn Operation)) : (play (s, w) schedule).2 = w := by
  induction schedule using List.reverseRecOn with
  | nil => rfl
  | append_singleton schedule t ih =>
    rw [play_concat]
    rcases hp : play (s, w) schedule with ⟨s₁, w₁⟩
    obtain rfl : w₁ = w := by rw [← ih, hp]
    cases t with
    | other op => rfl
    | own => exact congrArg Prod.snd (step_of_over h s₁)

end Wait

end KernelWait
