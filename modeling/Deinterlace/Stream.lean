import Deinterlace.Session

/-!
# Streams

`Session.drive` feeds a whole stream through a session: every frame, and then the end of the
stream, each followed by all the pictures that can be had (`Session.drain`). An error that is not
fatal costs the frame or the picture at hand and is counted in the `Summary`.
-/
namespace Deinterlace

/-- The account of a stream. -/
structure Summary where
  inputs : Nat := 0
  outputs : Nat := 0
  droppedInputs : Nat := 0
  failedOutputs : Nat := 0
deriving DecidableEq, Repr

namespace Session

variable {σ : Type} [Device σ]

/-- Takes outputs until there is none, at most `limit` of them. The caller holds the pictures. -/
def drain : (limit : Nat) → Session σ → List (Except Error Frame) × Session σ
  | 0, s => ([], s)
  | limit + 1, s =>
    match s.output with
    | (.ok none, s) => ([], s)
    | (.ok (some picture), s) =>
      let (rest, s) := drain limit s
      (.ok picture :: rest, s)
    | (.error e, s) =>
      let (rest, s) := drain limit s
      (.error e :: rest, s)

end Session

/-- A stream on its way through a session. -/
structure Passage (σ α : Type) where
  session : Session σ
  summary : Summary := {}
  /-- What was made of the pictures so far, in order. -/
  emitted : Array α := #[]
  /-- The fatal error that stopped the stream. -/
  failure : Option Error := none

namespace Passage

variable {σ α : Type} [Device σ]

/-- Takes all outputs there are and gives each picture back after `emit` has seen it. The bound
`limit` on their number is met by `Window.ticksLeft`. Where `emit` keeps a copy, giving the picture
back leaves a holder: that is a passage on a device whose `release` leaves it, and what is stated of
every device covers it. -/
def takeOutputs (emit : Frame → α) : (limit : Nat) → Passage σ α → Passage σ α
  | 0, p => p
  | limit + 1, p =>
    match p.session.output with
    | (.ok none, session) => { p with session }
    | (.ok (some picture), session) =>
      takeOutputs emit limit
        { p with
          session := session.dropFrame picture
          summary := { p.summary with outputs := p.summary.outputs + 1 }
          emitted := p.emitted.push (emit picture) }
    | (.error e, session) =>
      if e.isFatal then { p with session := session, failure := some e }
      else
        takeOutputs emit limit
          { p with
            session := session
            summary := { p.summary with failedOutputs := p.summary.failedOutputs + 1 } }

/-- Counts a frame that is about to go in; the end of the stream is not counted. -/
def countInput (frame : Option Frame) (summary : Summary) : Summary :=
  if frame.isSome then { summary with inputs := summary.inputs + 1 } else summary

/-- Feeds one frame, or the end of the stream, and takes the outputs it makes possible. -/
def step (emit : Frame → α) (p : Passage σ α) (frame : Option Frame) : Passage σ α :=
  if p.failure.isSome then p
  else
    let p := { p with summary := countInput frame p.summary }
    match p.session.input frame with
    | (.ok _, session) =>
      takeOutputs emit (session.window.ticksLeft + 1) { p with session }
    | (.error e, session) =>
      if e.isFatal then { p with session := session, failure := some e }
      else
        { p with
          session := session
          summary := { p.summary with droppedInputs := p.summary.droppedInputs + 1 } }

end Passage

/-- Feeds a whole stream and its end. -/
def Session.drive {σ α : Type} [Device σ] (session : Session σ) (frames : List Frame)
    (emit : Frame → α) : Passage σ α :=
  (frames.map some ++ [none]).foldl (Passage.step emit) { session }

end Deinterlace
