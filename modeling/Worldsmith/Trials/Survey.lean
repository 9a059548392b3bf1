import Worldsmith.Trials.Imagining
import Worldsmith.Decimal.Dyadic

/-!
# Surveys

A survey solves one request again and again and counts how often the first requested being has
each quality that it could have.
-/

namespace Worldsmith

/-- How often a quality held. -/
structure Tally where
  quality : Quality
  count : Nat

structure Survey where
  blueprint : Blueprint
  /-- The number of searches to make. -/
  trials : Nat
  completed : Nat
  failures : Nat
  tallies : List Tally

/-- What a survey found. -/
structure SurveyReport where
  trials : Nat
  failures : Nat
  /-- Names of qualities and the number of models in which each held. -/
  rows : List (String × Nat)

namespace Survey

/-- The qualities of interest: each kind at or below the requested one, followed by the adjectives
relevant to it that have not come before. -/
def qualities (world : World) (kind : Id .kind) : List Quality :=
  ((world.descendants kind).flatMap fun k =>
    .kind k :: ((world.ancestors k).flatMap fun above =>
      (world.kind above).adjectives.map Quality.adjective)).eraseDups

def start (world : World) (request : Request) (trials : Nat) : Survey :=
  ⟨.ofRequest world request, trials, 0, 0,
    (qualities world request.kind).map fun quality => ⟨quality, 0⟩⟩

/-- Whether all searches have been made. -/
def isDone (survey : Survey) : Bool :=
  survey.trials ≤ survey.completed

/-- Count the qualities of the first requested being of a model. -/
def count (survey : Survey) (model : Model) : Survey :=
  match model.blueprint.requested.head? with
  | none => survey
  | some first =>
    { survey with
      tallies := survey.tallies.map fun tally =>
        if model.hasQuality first tally.quality then { tally with count := tally.count + 1 }
        else tally }

/-- Make one search, unless all have been made. -/
def step (survey : Survey) (engine : Engine) : Survey × Engine :=
  if survey.isDone then (survey, engine)
  else
    let (result, engine) := engine.model survey.blueprint
    let survey := { survey with completed := survey.completed + 1 }
    match result with
    | .ok model => (survey.count model, engine)
    | .error _ => ({ survey with failures := survey.failures + 1 }, engine)

/-- Make the searches that remain, at most `count` of them. -/
def steps : (count : Nat) → Survey → Engine → Survey × Engine
  | 0, survey, engine => (survey, engine)
  | count + 1, survey, engine =>
    let (survey, engine) := survey.step engine
    steps count survey engine

/-- Make all searches that remain. -/
def run (survey : Survey) (engine : Engine) : Survey × Engine :=
  steps (survey.trials - survey.completed) survey engine

def report (survey : Survey) : SurveyReport :=
  ⟨survey.completed, survey.failures,
    survey.tallies.map fun tally =>
      (survey.blueprint.world.qualityName tally.quality, tally.count)⟩

end Survey

namespace SurveyReport

/-- The number of models found. -/
def successes (report : SurveyReport) : Nat := report.trials - report.failures

/-- The part of the models in which the quality of some name held. -/
def frequency? (report : SurveyReport) (name : String) : Option Float :=
  match report.rows.lookup name with
  | none => none
  | some count =>
    if report.successes = 0 then none
    else some (count.toUInt64.toFloat / report.successes.toUInt64.toFloat)

/-- A number as a whole percentage; a half goes to the even neighbour. -/
def percentage (x : Float) : String :=
  match DoubleValue.ofFloat (x * 100.0) with
  | .finite value => wholeText (value.round .toEven)
  | .infinite _ => "inf"
  | .notANumber => "NaN"

/-- A report as text: a line of totals, then a line for each quality. -/
def text (report : SurveyReport) : String :=
  let lines := report.rows.map fun (name, _) =>
    name ++ ": " ++ percentage ((report.frequency? name).getD 0.0) ++ "%"
  report.trials.repr ++ " trials, " ++ report.failures.repr ++ " failed\n" ++
    "\n".intercalate lines

end SurveyReport

end Worldsmith
