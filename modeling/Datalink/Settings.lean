import Datalink.Value.Comparison

/-!
# Settings from a database address

Input: an address, which is a path with an optional `file:` in front and optional
settings behind a question mark.  Settings are separated by ampersands, and each is
a key, an equality sign and a value.  Three keys are known; settings under other
keys belong to someone else and are discarded.

Results: `parse` reads an address into settings, or says which part of it cannot be
used; `make` builds settings from their parts, which are kept as they were handed over.
The settings of an address are texts and integers.
-/

namespace Datalink

/-- What the settings of a session depend on besides the address. -/
structure Surroundings where
  /-- Which paths are directories. -/
  isDirectory : Text → Bool
  physicalCores : Option Int
  logicalCores : Option Int
deriving Inhabited

namespace Surroundings

/-- A count of cores that is known, where zero means that it is not. -/
def known (count : Option Int) : Option Int :=
  match count with
  | some 0 => none
  | count => count

/-- The number of physical cores; if it is unknown the number of logical cores, and
if that is unknown too, one. -/
def cores (s : Surroundings) : Int :=
  ((known s.physicalCores).orElse fun _ => known s.logicalCores).getD 1

/-- The limit of connections when none is given. -/
def defaultLimit (s : Surroundings) : Int := s.cores * 2 + 1

end Surroundings

/-- The settings of a session. -/
structure Settings where
  path : Value
  databaseName : Value
  connectionLimit : Value
  cacheSize : Value
deriving Inhabited

namespace Settings

/-- The number of statements that are kept prepared when no number is given. -/
def defaultCacheSize : Value := .int 128

/-- Settings that an address may give; each may be missing. -/
structure Given where
  databaseName : Option Text
  connectionLimit : Option Nat
  cacheSize : Option Nat
deriving DecidableEq, Inhabited

/-- A path that can be used: it is not empty, it has an encoding, and it is no
directory. -/
def checkPath (s : Surroundings) (path : Value) : Except Fault Unit :=
  if path.truthy then
    match path.asEncodable with
    | .error f => .error f
    | .ok t =>
        if t.encodable = false ∨ s.isDirectory t = true then
          .error (.address path)
        else
          .ok ()
  else
    .error (.address path)

/-- The refusal of a setting. -/
def refuse (problem : OptionProblem) : Fault :=
  if problem.wordable then .options problem else .digitLimit

/-- A number that must not be less than a bound. -/
def checkBound (v : Value) (bound : Int) (problem : OptionProblem) :
    Except Fault Unit :=
  match v.compare .less (.int bound) with
  | .error f => .error f
  | .ok true => .error (refuse problem)
  | .ok false => .ok ()

theorem checkBound_int
    (n bound : Int) (problem : OptionProblem) :
    checkBound (.int n) bound problem =
      if n < bound then .error (refuse problem) else .ok () := by
  by_cases h : n < bound <;> simp [checkBound, h]

/-- The limit of connections, which may be left open. -/
def limitOr (s : Surroundings) (connectionLimit : Value) : Value :=
  match connectionLimit with
  | .null => .int s.defaultLimit
  | limit => limit

/-- Settings from their parts. -/
def make (s : Surroundings) (path databaseName connectionLimit cacheSize : Value) :
    Except Fault Settings :=
  match checkPath s path with
  | .error f => .error f
  | .ok () =>
      let limit := limitOr s connectionLimit
      match checkBound limit 1 (.limitNotPositive limit) with
      | .error f => .error f
      | .ok () =>
          match checkBound cacheSize 0 (.cacheSizeNegative cacheSize) with
          | .error f => .error f
          | .ok () => .ok ⟨path, databaseName, limit, cacheSize⟩

/-- What one setting of an address does: it gives something, or it is discarded
under its key. -/
inductive Effect where
  | gives (given : Given)
  | discarded (key : Text)
deriving DecidableEq, Inhabited

/-- The number that a value denotes, which must consist of ASCII digits. -/
def number (value : Text) (problem : OptionProblem) : Except Fault Nat :=
  if Numeral.isDigits value = false then
    .error (refuse problem)
  else if Numeral.digitLimit < value.length then
    .error .digitLimit
  else
    .ok (Numeral.ofDigits value)

/-- One setting on top of those given before it. -/
def setting (given : Given) (segment : Text) : Except Fault Effect :=
  match segment.cut (.scalar '=') with
  | (_, none) => .error (refuse (.notAPair segment))
  | (key, some value) =>
      if key = ("connection_limit" : Text) then
        match number value (.badLimit value) with
        | .error f => .error f
        | .ok 0 => .error (refuse (.badLimit value))
        | .ok n => .ok (.gives { given with connectionLimit := some n })
      else if key = ("statement_cache_size" : Text) then
        match number value (.badCacheSize value) with
        | .error f => .error f
        | .ok n => .ok (.gives { given with cacheSize := some n })
      else if key = ("db_name" : Text) then
        .ok (.gives { given with databaseName := some value })
      else
        .ok (.discarded key)

/-- The settings of a list of segments, empty segments being skipped, and the keys
discarded on the way.  The first segment that cannot be used ends the reading. -/
def collect : Given → List Text → List Text × Except Fault Given
  | given, [] => ([], .ok given)
  | given, segment :: rest =>
      if segment = [] then
        collect given rest
      else
        match setting given segment with
        | .error f => ([], .error f)
        | .ok (.gives given) => collect given rest
        | .ok (.discarded key) =>
            let (keys, result) := collect given rest
            (key :: keys, result)

/-- A number that may be missing, as a value. -/
def optionalNumber (n : Option Nat) (default : Value) : Value :=
  match n with
  | none => default
  | some n => .int n

/-- The path and the settings of an address. -/
def parts (address : Text) : Text × List Text :=
  let rest := (Text.dropOpening? "file:" address).getD address
  let (path, query) := rest.cut (.scalar '?')
  (path, (query.getD []).splitAt (.scalar '&'))

/-- The settings that were given, on a path. -/
def ofGiven (s : Surroundings) (path : Value) (given : Given) : Except Fault Settings :=
  make s path (.optionalText given.databaseName)
    (optionalNumber given.connectionLimit .null)
    (optionalNumber given.cacheSize defaultCacheSize)

/-- The settings that a path with segments stands for, and the keys discarded on the
way. -/
def ofParts (s : Surroundings) (path : Value) (segments : List Text) :
    List Text × Except Fault Settings :=
  match checkPath s path with
  | .error f => ([], .error f)
  | .ok () =>
      match collect ⟨none, none, none⟩ segments with
      | (keys, .error f) => (keys, .error f)
      | (keys, .ok given) => (keys, ofGiven s path given)

/-- The settings that an address stands for, and the keys discarded on the way. -/
def parse (s : Surroundings) (address : Text) : List Text × Except Fault Settings :=
  let (path, segments) := parts address
  ofParts s (.text path) segments

/-- The settings that an address stands for, which must be a text.  An address that is
all path is kept as it was handed over. -/
def read (s : Surroundings) (address : Value) : List Text × Except Fault Settings :=
  match address.asText "startswith" with
  | .error f => ([], .error f)
  | .ok t =>
      let (path, segments) := parts t
      ofParts s (if path = t then address else .text path) segments

theorem read_text
    (s : Surroundings) (address : Text) :
    read s (.text address) = parse s address := by
  by_cases h : (parts address).1 = address <;> simp [read, parse, h]

/-- The note about a discarded key. -/
def discardNote (key : Text) : Text :=
  "Discarding connection string param: " ++ key

/-- Settings in text, if they have one. -/
def print (settings : Settings) : Except Fault Text := do
  let path ← settings.path.printed
  let name ← settings.databaseName.printed
  let limit ← settings.connectionLimit.words
  let size ← settings.cacheSize.words
  return "SqliteParams(file_path=" ++ path ++ ", db_name=" ++ name ++
    ", connection_limit=" ++ limit ++ ", statement_cache_size=" ++ size ++ ")"

/-- The settings in order, as one value. -/
def toValue (settings : Settings) : Value :=
  .tuple [settings.path, settings.databaseName, settings.connectionLimit,
    settings.cacheSize]

/-- Whether two settings are the same. -/
def equals (one two : Settings) : Except Fault Bool := one.toValue.equals two.toValue

end Settings
end Datalink
