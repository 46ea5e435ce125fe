import CodexMustWork.StateFiles

/-!
# Persisted state

`scripts/state.py`: a document of the state root is read with checks of its path and its
schema, and written only where what is there loads.
-/

namespace CodexMustWork.StatePersistence

open DisturbedRuns StateFiles

section Functions

variable (codec : JsonCodec) (token : String) (root path : StatePath)

/-- `ensure_existing_components_are_direct`. -/
def ensureExistingComponentsAreDirect (site : Site) (path : StatePath) : Call Unit :=
  Run.look site fun disk =>
    match (components root path).find? fun current => disk current = .redirect with
    | some current => .error (.unsafePath root current)
    | none => .ok ()

/-- `safe_absolute_path`. -/
def safeAbsolutePath (site : Site) : Call Unit :=
  if path = root ∨ ¬ root <+: path then Run.raise (.unsafePath root path)
  else ensureExistingComponentsAreDirect root site path

/-- `ensure_direct_regular_file`. -/
def ensureDirectRegularFile : Call Unit := do
  safeAbsolutePath root path (.load .inner)
  Run.look (.load .stat) fun disk =>
    match disk path with
    | .missing => .ok ()
    | .file _ links => if links = 1 then .ok () else .error (.unsafePath root path)
    | _ => .error (.unsafePath root path)

/-- `_check_schema`. -/
def checkSchema (version : ℤ) : Except StateFailure Unit :=
  if 1 < version then .error (.futureSchema path version)
  else if version ≠ 1 then .error (.corrupt path .invalidSchema)
  else .ok ()

/-- The values of the document in a file. -/
def parseState (content : List UInt8) : Except StateFailure PyDict :=
  match decodeText content with
  | none => .error (.corrupt path .invalidJson)
  | some text =>
      match codec.loads (universalNewlines text) with
      | .error .malformed => .error (.corrupt path .invalidJson)
      | .error .nonFinite => .error (.corrupt path .invalidJson)
      | .error error => .error (.json error)
      | .ok (.dict values) =>
          match PyDict.find values "schema_version" with
          | some (.int version) => do
              checkSchema path version
              return untaggedValues values
          | _ => .error (.corrupt path .invalidSchema)
      | .ok _ => .error (.corrupt path .invalidTopLevel)

/-- `load_state`. -/
def loadState : Call PyDict := do
  safeAbsolutePath root path (.load .outer)
  ensureDirectRegularFile root path
  let values ← Run.look (.load .read) fun disk =>
    match disk path with
    | .file content _ => parseState codec path content
    | _ => .error .osError
  ensureExistingComponentsAreDirect root (.load .again) path
  return values

/-- The bytes of a document. -/
def renderState (version : ℤ) (values : PyDict) : Except StateFailure (List UInt8) :=
  match codec.dumps (.dict (taggedValues version values)) with
  | .error error => .error (.json error)
  | .ok text =>
      match encodeText (text ++ [lineFeed]) with
      | none => .error (.json .valueError)
      | some content => .ok content

/-- `atomic_json_write`. -/
def atomicJsonWrite (version : ℤ) (values : PyDict) : Call Unit :=
  replaceFile token path (renderState codec version values)

/-- `except (TypeError, ValueError)`. -/
def refusingValues (write : Call Unit) : Call Unit :=
  Run.attempt write fun error =>
    Run.raise (match error with
      | .json .typeError => .corrupt path .invalidValue
      | .json .valueError => .corrupt path .invalidValue
      | error => error)

/-- `path.is_file()`. -/
def isFile (site : Site) : Call Bool :=
  Run.look site fun disk =>
    match disk path with
    | .file _ _ => .ok true
    | _ => .ok false

/-- `if values != original`: the values are written when the mutator changed them. -/
def writeChanged (original values : PyDict) : Call Unit :=
  if PyValue.eq (.dict values) (.dict original) then pure ()
  else refusingValues path (atomicJsonWrite codec token path 1 values)

/-- What `mutate_existing_state` does under the lock, once the file is there. -/
def mutateLocked {α : Type} (mutator : PyDict → Except StateFailure (PyDict × α))
    (afterCommit : Option (Call Unit)) : Call α := do
  let original ← loadState codec root path
  match mutator original with
  | .error failure => Run.raise failure
  | .ok (values, result) => do
      writeChanged codec token path original values
      afterCommit.getD (pure ())
      return result

/-- `mutate_existing_state`. -/
def mutateExistingState {α : Type} (mutator : PyDict → Except StateFailure (PyDict × α))
    (afterCommit : Option (Call Unit)) : Call (Option α) := do
  safeAbsolutePath root path .outer
  if ← isFile path .isFile then
    withLock path do
      if ← isFile path .isFileLocked then
        return some (← mutateLocked codec token root path mutator afterCommit)
      else return none
  else return none

end Functions

end CodexMustWork.StatePersistence
