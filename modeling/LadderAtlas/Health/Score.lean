import LadderAtlas.Number.Binary64

/-! # Scores

The health score weighs up to four components on a scale to a hundred: how few tags are unused, how
many rungs have comments, how often tags are referenced, and how few names break the naming rules. A
component without data is not applicable and drops out, and the other weights make up for it. The
arithmetic is over any kind of number that has the operations of `ScoreNumber`; reports use `Float`,
and `Rat` gives the exact values. -/

namespace LadderAtlas.Health

/-- Numbers in which scores can be reckoned. -/
class ScoreNumber (α : Type) extends Add α, Sub α, Mul α, Div α where
  /-- The quotient of two whole numbers. -/
  ratio : Int → Int → α
  less : α → α → Bool
  /-- The nearest whole number; a half goes up. -/
  roundHalfUp : α → Int

instance : ScoreNumber Rat where
  ratio a b := (a : Rat) / b
  less a b := decide (a < b)
  roundHalfUp x := (x + 1 / 2).floor

/-- The nearest whole number to a finite `Float`. -/
def roundFloat (x : Float) : Int :=
  match Number.Dyadic.ofFloat? (x + 0.5) with
  | some d => d.floor
  | none => 0

instance : ScoreNumber Float where
  ratio := Number.floatRatio
  less a b := decide (a < b)
  roundHalfUp := roundFloat

namespace ScoreNumber

variable {α : Type} [ScoreNumber α]

def ofInt (n : Int) : α := ratio n 1

/-- The number, or the bound if it is below it. -/
def atLeast (bound x : α) : α := if less bound x then x else bound

/-- The number, or the bound if it is above it. -/
def atMost (bound x : α) : α := if less x bound then x else bound

end ScoreNumber

open ScoreNumber

/-- Why a metric cannot be computed. -/
inductive Lack where
  | rungs
  | tagSection
  | names
  | components
deriving Repr, DecidableEq

def Lack.reason : Lack → String
  | .rungs => "no rungs"
  | .tagSection => "no tag section in any export"
  | .names => "no names checked"
  | .components => "no computable component"

/-- A metric that is computed, or lacks what it needs. -/
inductive Metric (α : Type) where
  | computed (value : α)
  | lacking (why : Lack)
deriving Repr

namespace Metric

variable {α : Type}

def value? : Metric α → Option α
  | computed v => some v
  | lacking _ => none

def lack? : Metric α → Option Lack
  | computed _ => none
  | lacking why => some why

end Metric

/-- What the score is computed from. -/
structure Stats where
  totalTags : Int := 0
  unusedTags : Int := 0
  totalRungs : Int := 0
  commentedRungs : Int := 0
  totalReferences : Int := 0
  tagsAvailable : Bool := true
  namesChecked : Int := 0
  namingViolations : Int := 0
  partialExport : Bool := false
deriving Repr, DecidableEq

/-- The components of the score. -/
inductive Component where
  | tagEfficiency
  | documentation
  | tagUsage
  | naming
deriving Repr, DecidableEq

/-- The weight of a component in hundredths. -/
def Component.weight (withNaming : Bool) : Component → Int
  | .tagEfficiency => if withNaming then 32 else 40
  | .documentation => if withNaming then 28 else 35
  | .tagUsage => if withNaming then 20 else 25
  | .naming => 20

namespace Stats

variable {α : Type} [ScoreNumber α]

/-- A hundred less two for each percent, not below zero. -/
def penalized (bad total : Int) : α :=
  atLeast (ofInt 0) (ofInt 100 - ratio bad total * ofInt 200)

def tagEfficiency (s : Stats) : Metric α :=
  if !s.tagsAvailable then .lacking .tagSection
  else if s.totalTags = 0 then .computed (ofInt 100)
  else .computed (penalized s.unusedTags s.totalTags)

/-- The percentage of rungs with a comment. -/
def coverage (commented total : Int) : Metric α :=
  if total = 0 then .lacking .rungs else .computed (ratio commented total * ofInt 100)

/-- The score weighs the coverage in whole percents. -/
def documentation (s : Stats) : Metric α :=
  match (coverage s.commentedRungs s.totalRungs : Metric α) with
  | .computed v => .computed (ofInt (roundHalfUp v))
  | .lacking why => .lacking why

def tagUsage (s : Stats) : Metric α :=
  if !s.tagsAvailable then .lacking .tagSection
  else if s.totalTags = 0 then .computed (ofInt 0)
  else .computed (atMost (ofInt 100) (ratio s.totalReferences s.totalTags * ofInt 20))

def naming (s : Stats) : Metric α :=
  if s.namesChecked = 0 then .lacking .names
  else .computed (penalized s.namingViolations s.namesChecked)

/-- The components of the score in order. -/
def components (s : Stats) (withNaming : Bool) : List (Component × Metric α) :=
  [(.tagEfficiency, s.tagEfficiency), (.documentation, s.documentation), (.tagUsage, s.tagUsage)] ++
    (if withNaming then [(.naming, s.naming)] else [])

/-- The components that are computed. -/
def computable (s : Stats) (withNaming : Bool) : List (Component × α) :=
  (s.components withNaming).filterMap fun (c, m) => m.value?.map (c, ·)

/-- The sum of numbers from the left. -/
def total (l : List α) : α := l.foldl (· + ·) (ofInt 0)

/-- The weighted mean of the computed components, between zero and a hundred. -/
def overall (s : Stats) (withNaming : Bool) : Metric α :=
  let parts := (s.computable withNaming : List (Component × α))
  let weight (c : Component) : α := ratio (c.weight withNaming) 100
  if parts.isEmpty then .lacking .components
  else
    let mean := total (parts.map fun (c, v) => weight c * v) / total (parts.map fun (c, _) => weight c)
    .computed (atLeast (ofInt 0) (atMost (ofInt 100) mean))

/-- Whether the score rests on less than all data. -/
def isApproximate (α : Type) [ScoreNumber α] (s : Stats) (withNaming : Bool) : Bool :=
  s.partialExport ||
    (s.computable withNaming : List (Component × α)).length <
      (s.components withNaming : List (Component × Metric α)).length

end Stats

end LadderAtlas.Health
