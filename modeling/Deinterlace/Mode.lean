/-!
# Deinterlacing modes

`Mode` is what a user selects and `Algorithm` what a device is asked for. Two modes may ask for the
same algorithm and differ in how many pictures they make of one frame (`Mode.doublesFields`).
-/
namespace Deinterlace

/-- Deinterlacing algorithms a device may implement. -/
inductive Algorithm
  | none
  | bob
  | weave
  | motionAdaptive
  | motionCompensated
deriving DecidableEq, Repr

def Algorithm.name : Algorithm → String
  | .none => "None"
  | .bob => "Bob"
  | .weave => "Weave"
  | .motionAdaptive => "MotionAdaptive"
  | .motionCompensated => "MotionCompensated"

def Algorithm.all : List Algorithm := [.none, .bob, .weave, .motionAdaptive, .motionCompensated]

/-- Deinterlacing modes a user may select. -/
inductive Mode
  | off
  /-- Bob on the first field only: one picture per frame. -/
  | firstField
  | bob
  | weave
  | motionAdaptive
  | motionCompensated
deriving DecidableEq, Repr

namespace Mode

/-- The algorithm that implements a mode; `Algorithm.none` where no filter is needed. -/
def algorithm : Mode → Algorithm
  | .off => .none
  | .firstField | .bob => .bob
  | .weave => .weave
  | .motionAdaptive => .motionAdaptive
  | .motionCompensated => .motionCompensated

/-- Whether every frame yields one picture per field. Weave merges both fields into one picture and
first-field drops the second one, so neither doubles the rate. -/
def doublesFields : Mode → Bool
  | .bob | .motionAdaptive | .motionCompensated => true
  | .off | .firstField | .weave => false

def isEnabled (m : Mode) : Bool := m != .off

def all : List Mode := [.off, .firstField, .bob, .weave, .motionAdaptive, .motionCompensated]

def name : Mode → String
  | .off => "no"
  | .firstField => "first-field"
  | .bob => "bob"
  | .weave => "weave"
  | .motionAdaptive => "motion-adaptive"
  | .motionCompensated => "motion-compensated"

end Mode

end Deinterlace
