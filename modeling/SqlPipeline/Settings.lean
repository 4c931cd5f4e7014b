import SqlPipeline.Pipeline.Graph

/-!
# Settings

What the compiler and the recovery of graphs share: the alias of the base relation, the load
strategy of a recovered target, the canvas positions of recovered stages, and how to log.
-/

namespace SqlPipeline

/-- The levels that settings can name. -/
inductive LogThreshold where
  | debug
  | info
  | warning
  | error
  deriving DecidableEq, Repr

instance : Choice LogThreshold where
  options := [.debug, .info, .warning, .error]
  label
    | .debug => "DEBUG"
    | .info => "INFO"
    | .warning => "WARNING"
    | .error => "ERROR"

/-- How to log. -/
structure LoggingSettings where
  level : LogThreshold := .info
  structured : Bool := false

/-- Positions by kind of stage, in order. -/
abbrev StagePositions := List (StageKind × Position)

namespace StagePositions

/-- The positions of the stages that recovery produces: one row from left to right. -/
def default : StagePositions :=
  [(.source, .ofFloats 100 200), (.filter, .ofFloats 400 200), (.aggregate, .ofFloats 700 200),
    (.target, .ofFloats 1000 200)]

/-- The position of a kind of stage. -/
def position? (kind : StageKind) : StagePositions → Option Position
  | [] => none
  | (other, position) :: rest => if other == kind then some position else position? kind rest

/-- Writes the position of a kind of stage, in place when there is one. -/
def put (kind : StageKind) (position : Position) : StagePositions → StagePositions
  | [] => [(kind, position)]
  | (other, old) :: rest =>
    if other == kind then (other, position) :: rest else (other, old) :: put kind position rest

/-- The defaults with the given positions written over them. -/
def overDefaults (given : StagePositions) : StagePositions :=
  given.foldl (fun positions (kind, position) => put kind position positions) default

end StagePositions

/-- The settings. -/
structure Settings where
  sourceAlias : String := "source"
  targetLoadStrategy : LoadStrategy := .truncate
  stagePositions : StagePositions := .default
  logging : LoggingSettings := {}

/-- The position of a kind of stage, untouched when none is set. -/
def Settings.positionFor (settings : Settings) (kind : StageKind) : Position :=
  (settings.stagePositions.position? kind).getD {}

end SqlPipeline
