import Worldsmith.Trials.Imagining

/-!
# Inspections

An inspection checks what the world's statements expect to exist or not to exist, one search for
each.
-/

namespace Worldsmith

/-- What came of one expectation. -/
structure Finding where
  text : String
  passed : Bool
  /-- Why it was not met. -/
  detail : Option String
  deriving DecidableEq, Repr

structure Inspection where
  world : World
  findings : List Finding

namespace Inspection

def start (world : World) : Inspection := ⟨world, []⟩

/-- What a search says about an expectation. -/
def judge (expectation : Expectation) (result : Except SearchFailure Model) : Finding :=
  let passed : Finding := ⟨expectation.text, true, none⟩
  let failed (detail : Option String) : Finding := ⟨expectation.text, false, detail⟩
  match expectation.shouldExist, result with
  | true, .ok _ => passed
  | false, .error .contradiction => passed
  | true, .error failure => failed (some (Error.noExample failure).message)
  | false, .error failure => failed (some (Error.noExample failure).message)
  | false, .ok model =>
    failed (model.blueprint.requested.head?.map fun i => "found " ++ model.description i)

/-- Whether all expectations have been checked. -/
def isDone (inspection : Inspection) : Bool :=
  inspection.world.expectations.size ≤ inspection.findings.length

/-- Check the next expectation. -/
def step (inspection : Inspection) (engine : Engine) : Inspection × Engine :=
  match inspection.world.expectations[inspection.findings.length]? with
  | none => (inspection, engine)
  | some expectation =>
    let request : Request := ⟨expectation.kind, expectation.modifiers, 1⟩
    let (result, engine) := engine.model (.ofRequest inspection.world request)
    ({ inspection with findings := inspection.findings ++ [judge expectation result] }, engine)

/-- Check the next expectations, at most `count` of them. -/
def steps : (count : Nat) → Inspection → Engine → Inspection × Engine
  | 0, inspection, engine => (inspection, engine)
  | count + 1, inspection, engine =>
    let (inspection, engine) := inspection.step engine
    steps count inspection engine

/-- Check all expectations that remain. -/
def run (inspection : Inspection) (engine : Engine) : Inspection × Engine :=
  steps (inspection.world.expectations.size - inspection.findings.length) inspection engine

/-- The number of expectations that were met. -/
def passed (inspection : Inspection) : Nat := inspection.findings.countP Finding.passed

def failed (inspection : Inspection) : Nat := inspection.findings.length - inspection.passed

end Inspection

/-- A finding as a line of text. -/
def Finding.line (finding : Finding) : String :=
  let verdict := if finding.passed then "pass: " else "FAIL: "
  match finding.detail with
  | none => verdict ++ finding.text
  | some detail => verdict ++ finding.text ++ " (" ++ detail ++ ")"

/-- All findings, and how many there are of either sort. -/
def Inspection.text (inspection : Inspection) : String :=
  String.join (inspection.findings.map fun finding => finding.line ++ "\n") ++
    inspection.passed.repr ++ " passed, " ++ inspection.failed.repr ++ " failed"

end Worldsmith
